import Mathlib
import Ninefold.Instant
import Ninefold.Proofs.Text

/-!
# Instants read back

The day with a number has that number, and the written form of an instant that
the calendar has is read as the instant.

Days are counted in cycles of 400 years. A cycle is cut the way its leap days
lie: into centuries, of which the last is a day longer, these into runs of four
years, of which the last of all but the last century is a day shorter, and
these into years, of which the last is a day longer where the run is whole.
-/

namespace Ninefold

namespace Day

/-! ## Days by number -/

/-- A day of a cycle lies in a century, in four years of it, in one of these,
and so many days after the first of that. -/
theorem exists_split {d : Int} (h : 0 ≤ d) (h' : d < 146097) :
    ∃ a b c g : Int, d = 36524 * a + 1461 * b + 365 * c + g ∧ (0 ≤ a ∧ a ≤ 3) ∧
      (0 ≤ b ∧ b ≤ 24) ∧ (0 ≤ c ∧ c ≤ 3) ∧ (0 ≤ g ∧ g ≤ 365) ∧
      (g = 365 → c = 3 ∧ (b < 24 ∨ a = 3)) := by
  obtain ⟨a, ha⟩ : ∃ a, a = min 3 (d / 36524) := ⟨_, rfl⟩
  obtain ⟨b, hb⟩ : ∃ b, b = (d - 36524 * a) / 1461 := ⟨_, rfl⟩
  obtain ⟨c, hc⟩ : ∃ c, c = min 3 ((d - 36524 * a - 1461 * b) / 365) := ⟨_, rfl⟩
  exact ⟨a, b, c, d - 36524 * a - 1461 * b - 365 * c, by omega, by omega, by omega, by omega,
    by omega, by omega⟩

/-- The year that is computed for a day is the one it lies in. -/
theorem year_of_split {a b c g d : Int} (hd : d = 36524 * a + 1461 * b + 365 * c + g)
    (ha : 0 ≤ a ∧ a ≤ 3) (hb : 0 ≤ b ∧ b ≤ 24) (hc : 0 ≤ c ∧ c ≤ 3) (hg : 0 ≤ g ∧ g ≤ 365)
    (hleap : g = 365 → c = 3 ∧ (b < 24 ∨ a = 3)) :
    (d - d / 1460 + d / 36524 - d / 146096) / 365 = 100 * a + 4 * b + c := by
  have hcenturies : d / 36524 - d / 146096 = a := by
    obtain ⟨r, hr⟩ : ∃ r, r = 1461 * b + 365 * c + g := ⟨_, rfl⟩
    have hlast : 0 ≤ r ∧ r ≤ 36524 ∧ (r = 36524 → a = 3) := by omega
    have hd : d = 36524 * a + r := by omega
    clear hr hleap hb hc hg
    omega
  have hfours : d / 1460 = 25 * a + b + if 1460 ≤ 24 * a + b + 365 * c + g then 1 else 0 := by
    split <;> omega
  split at hfours <;> omega

/-- A day of a cycle lies in the year that is computed for it. -/
theorem exists_year {d : Int} (h : 0 ≤ d) (h' : d < 146097) :
    ∃ y g : Int, (d - d / 1460 + d / 36524 - d / 146096) / 365 = y ∧
      d = 365 * y + y / 4 - y / 100 + g ∧ (0 ≤ y ∧ y < 400) ∧ 0 ≤ g ∧ g ≤ 365 := by
  obtain ⟨a, b, c, g, hd, ha, hb, hc, hg, hleap⟩ := exists_split h h'
  have hfours : (100 * a + 4 * b + c) / 4 = 25 * a + b := by omega
  have hcenturies : (100 * a + 4 * b + c) / 100 = a := by omega
  refine ⟨_, g, year_of_split hd ha hb hc hg hleap, ?_, ?_, hg⟩
  · rw [hfours, hcenturies, hd]
    omega
  · omega

/-- A day of a year that begins in March lies in the month that is computed for
it. -/
theorem month_bounds {g m : Int} (hg : 0 ≤ g ∧ g ≤ 365) (hm : (5 * g + 2) / 153 = m) :
    (0 ≤ m ∧ m ≤ 11) ∧ 0 ≤ g - (153 * m + 2) / 5 := by
  omega

/-- The number of a day by the month of the year that begins in March. -/
theorem toNumber_march {year month day : Int} (hm : 0 ≤ month ∧ month ≤ 11) (hd : 1 ≤ day) :
    toNumber (if month < 10 then ⟨year, (month + 3).toNat, day.toNat⟩
        else ⟨year + 1, (month - 9).toNat, day.toNat⟩) =
      year / 400 * 146097 + (year % 400 * 365 + year % 400 / 4 - year % 400 / 100 +
        ((153 * month + 2) / 5 + day - 1)) - 719468 := by
  have hday : (day.toNat : Int) = day := Int.toNat_of_nonneg (by omega)
  by_cases hspring : month < 10
  · have hmonth : ((month + 3).toNat : Int) = month + 3 := Int.toNat_of_nonneg (by omega)
    have hafter : ¬ (month + 3).toNat ≤ 2 := by omega
    rw [if_pos hspring, toNumber]
    simp only [if_neg hafter, hmonth, hday, Int.add_sub_cancel]
  · have hmonth : ((month - 9).toNat : Int) = month - 9 := Int.toNat_of_nonneg (by omega)
    have hbefore : (month - 9).toNat ≤ 2 := by omega
    rw [if_neg hspring, toNumber]
    simp only [if_pos hbefore, hmonth, hday, Int.add_sub_cancel, Int.sub_add_cancel]

/-- **The day with a number has that number.** -/
theorem toNumber_ofNumber (n : Int) : (ofNumber n).toNumber = n := by
  obtain ⟨cycle, hcycle⟩ : ∃ k, (n + 719468) / 146097 = k := ⟨_, rfl⟩
  obtain ⟨d, hd⟩ : ∃ k, (n + 719468) % 146097 = k := ⟨_, rfl⟩
  obtain ⟨hn, hpos, hlt⟩ : n = cycle * 146097 + d - 719468 ∧ 0 ≤ d ∧ d < 146097 := by omega
  obtain ⟨y, g, hyear, hday, hy, hg⟩ := exists_year hpos hlt
  obtain ⟨m, hm⟩ : ∃ m, (5 * g + 2) / 153 = m := ⟨_, rfl⟩
  obtain ⟨hmonth, hfirst⟩ := month_bounds hg hm
  have hinYear : d - (365 * y + y / 4 - y / 100) = g := by
    rw [hday]
    omega
  have hshape : ofNumber n =
      if m < 10 then ⟨y + cycle * 400, (m + 3).toNat, (g - (153 * m + 2) / 5 + 1).toNat⟩
      else ⟨y + cycle * 400 + 1, (m - 9).toNat, (g - (153 * m + 2) / 5 + 1).toNat⟩ := by
    simp only [ofNumber, hcycle, hd, hyear, hinYear, hm]
    by_cases hspring : m < 10
    · have hafter : ¬ m + 3 ≤ 2 := by omega
      simp only [if_pos hspring, if_neg hafter]
    · have hbefore : m - 9 ≤ 2 := by omega
      simp only [if_neg hspring, if_pos hbefore]
  have hdiv : (y + cycle * 400) / 400 = cycle := by omega
  have hmod : (y + cycle * 400) % 400 = y := by omega
  rw [hshape, toNumber_march hmonth (by omega), hdiv, hmod, hn, hday]
  omega

end Day

namespace Instant

/-! ## Numbers of a width -/

theorem isDigit_padded {width n : Nat} : ∀ c ∈ padded width n, c.isDigit = true := by
  intro c hc
  rcases List.mem_append.mp hc with hc | hc
  · rw [List.eq_of_mem_replicate hc]
    rfl
  · exact Text.isDigit_toDigits n c hc

theorem padded_ne_nil (width n : Nat) : padded width n ≠ [] := by
  simp [padded, Nat.toDigits_ne_nil]

theorem length_padded {width n : Nat} (hw : 0 < width) (h : n < 10 ^ width) :
    (padded width n).length = width := by
  have hdigits : (Nat.toDigits 10 n).length ≤ width :=
    (Nat.length_toDigits_le_iff (by decide) hw).mpr h
  simp only [padded, List.length_append, List.length_replicate]
  omega

theorem ofDigitChars_padded (width n : Nat) : Nat.ofDigitChars 10 (padded width n) 0 = n := by
  rw [padded, Nat.ofDigitChars_append, Nat.ofDigitChars_replicate_zero, Nat.mul_zero,
    Nat.ofDigitChars_ten_toDigits]

/-- Digits are taken as far as they may go, or up to where none follows. -/
theorem digits?_append {most : Nat} {ds rest : Text} (hdigits : ∀ c ∈ ds, c.isDigit = true)
    (hne : ds ≠ []) (hlen : ds.length ≤ most)
    (hend : ds.length = most ∨ ∀ c ∈ rest.head?, c.isDigit = false) :
    digits? most (ds ++ rest) = some (Nat.ofDigitChars 10 ds 0, rest) := by
  have hrest : (rest.take (most - ds.length)).takeWhile Char.isDigit = [] := by
    rcases hend with hend | hend
    · rw [hend, Nat.sub_self]
      rfl
    · cases rest with
      | nil => rw [List.take_nil]; rfl
      | cons c rest =>
        have hc : c.isDigit = false := hend c rfl
        cases most - ds.length with
        | zero => rfl
        | succ n => simp [hc]
  have htaken : ((ds ++ rest).take most).takeWhile Char.isDigit = ds := by
    rw [List.take_append, List.take_of_length_le hlen, List.takeWhile_append_of_pos hdigits, hrest,
      List.append_nil]
  simp only [digits?, htaken, List.isEmpty_eq_false_iff.mpr hne]
  simp

/-- A number of a width is read by that width. -/
theorem digits?_padded {width n : Nat} (hw : 0 < width) (h : n < 10 ^ width) (rest : Text) :
    digits? width (padded width n ++ rest) = some (n, rest) := by
  have hlen := length_padded hw h
  rw [digits?_append isDigit_padded (padded_ne_nil width n) (Nat.le_of_eq hlen) (.inl hlen),
    ofDigitChars_padded]

theorem trimStart_cons {c : Char} {t : Text} (h : Text.isBlank c = false) :
    Text.trimStart (c :: t) = c :: t := by
  rw [Text.trimStart, List.dropWhile_cons, h]
  rfl

theorem trimStart_padded (width n : Nat) (rest : Text) :
    Text.trimStart (padded width n ++ rest) = padded width n ++ rest := by
  obtain ⟨c, ds, hcons⟩ := List.exists_cons_of_ne_nil (padded_ne_nil width n)
  have hdigit : c.isDigit = true := isDigit_padded c (hcons ▸ List.mem_cons_self)
  rw [hcons, List.cons_append, trimStart_cons (Text.not_isBlank_of_isDigit hdigit)]

theorem number?_padded {low high n : Nat} (h : low ≤ n) (h' : n ≤ high) (hhigh : high < 100)
    (rest : Text) : number? 2 low high (padded 2 n ++ rest) = some (n, rest) := by
  rw [number?, trimStart_padded, digits?_padded (by decide) (by omega)]
  simp [h, h']

theorem mark?_cons {c : Char} {t : Text} (h : Text.isBlank c = false) :
    mark? c (c :: t) = some t := by
  rw [mark?, trimStart_cons h]
  exact if_pos rfl

/-! ## Parts of a written instant -/

/-- A year is read up to the sign behind it. -/
theorem year?_yearText (y : Int) (rest : Text) :
    year? (yearText y ++ '-' :: rest) = some (y, '-' :: rest) := by
  have hstop : ∀ c ∈ ('-' :: rest).head?, c.isDigit = false := by
    rintro c ⟨⟩
    rfl
  have hsigned : ∀ n : Nat,
      digits? (padded 4 n ++ '-' :: rest).length (padded 4 n ++ '-' :: rest) =
        some (n, '-' :: rest) := by
    intro n
    rw [digits?_append isDigit_padded (padded_ne_nil 4 n) (by simp) (.inr hstop),
      ofDigitChars_padded]
  unfold yearText
  by_cases hshort : 0 ≤ y ∧ y ≤ 9999
  · have hfits : y.toNat < 10 ^ 4 := by omega
    have hread := digits?_padded (by decide) hfits ('-' :: rest)
    have hy : (y.toNat : Int) = y := Int.toNat_of_nonneg hshort.1
    obtain ⟨c, ds, hcons⟩ := List.exists_cons_of_ne_nil (padded_ne_nil 4 y.toNat)
    have hdigit : c.isDigit = true := isDigit_padded c (hcons ▸ List.mem_cons_self)
    rw [if_pos (by simpa using hshort), year?.eq_def, trimStart_padded]
    rw [hcons, List.cons_append] at hread ⊢
    split
    · next h => cases h; cases hdigit
    · next h => cases h; cases hdigit
    · rw [hread]
      exact congrArg (fun n => some (n, '-' :: rest)) hy
  · rw [if_neg (by simpa using hshort)]
    by_cases hneg : y < 0
    · rw [if_pos hneg, year?, List.cons_append, trimStart_cons rfl]
      simp only [hsigned, Option.map_some]
      rw [show -(y.natAbs : Int) = y by omega]
    · rw [if_neg hneg, year?, List.cons_append, trimStart_cons rfl]
      simp only [hsigned, Option.map_some]
      rw [show (y.natAbs : Int) = y by omega]

/-- A fraction is read up to the letter behind it. -/
theorem fraction?_fractionText {n : Nat} (h : n < 10 ^ 9) :
    fraction? (fractionText n ++ ['Z']) = some (n, ['Z']) := by
  have hread : ∀ width k, 0 < width → width ≤ 9 → k < 10 ^ width → k * 10 ^ (9 - width) = n →
      fraction? ('.' :: padded width k ++ ['Z']) = some (n, ['Z']) := by
    intro width k hpos hle hk hn
    have hlen := length_padded hpos hk
    have hmost : (padded width k).length ≤ 9 := by omega
    rw [List.cons_append, fraction?, digits?_append isDigit_padded (padded_ne_nil width k) hmost
      (.inr (by rintro c ⟨⟩; rfl)), ofDigitChars_padded]
    simp only [Option.map_some, List.length_append, hlen, List.length_singleton,
      Nat.add_sub_cancel]
    rw [show Nat.pow 10 (9 - width) = 10 ^ (9 - width) from rfl, hn]
    rfl
  unfold fractionText
  split
  · next hzero => rw [hzero]; rfl
  split
  · exact hread 3 (n / 1000000) (by decide) (by decide) (by omega) (by omega)
  split
  · exact hread 6 (n / 1000) (by decide) (by decide) (by omega) (by omega)
  · exact hread 9 n (by decide) (by decide) h (by omega)

/-! ## Instants -/

/-- An instant that clocks show: a second and a nanosecond that there are, on a
day that the calendar has. -/
structure Kept (i : Instant) : Prop where
  second : i.second ≤ 60
  nanosecond : i.nanosecond < 10 ^ 9
  day : (Day.ofNumber (i.minute / 1440)).isValid = true

/-- A day is read up to the letter behind it. -/
theorem day?_text {d : Day} (h : d.isValid = true) (rest : Text) :
    day? (yearText d.year ++ '-' :: (padded 2 d.month ++ '-' :: (padded 2 d.day ++ 'T' :: rest))) =
      some (d, 'T' :: rest) := by
  have hvalid : (1 ≤ d.month ∧ d.month ≤ 12) ∧ 1 ≤ d.day ∧ d.day ≤ 31 := by
    simp only [Day.isValid, Bool.and_eq_true, decide_eq_true_eq] at h
    have hmonth : Day.monthLength d.year d.month ≤ 31 := by
      unfold Day.monthLength
      split
      · split <;> omega
      · split <;> omega
    omega
  obtain ⟨hmonth, hday⟩ := hvalid
  simp only [day?, year?_yearText,
    number?_padded hmonth.1 hmonth.2 (by decide), number?_padded hday.1 hday.2 (by decide),
    mark?_cons (c := '-') rfl, Option.bind_eq_bind, Option.bind_some]
  rfl

/-- **A written instant is read back.** -/
theorem ofText?_text {i : Instant} (h : i.Kept) : ofText? i.text = some i := by
  obtain ⟨m, hm⟩ : ∃ m, (i.minute % 1440).toNat = m := ⟨_, rfl⟩
  have hclock : m / 60 ≤ 23 ∧ m % 60 ≤ 59 := by omega
  have hminute : i.minute / 1440 * 1440 + (m / 60 : Nat) * 60 + (m % 60 : Nat) - 0 = i.minute := by
    omega
  have hafter : ∀ t : Text, afterDay? ('T' :: t) = some t := fun t => rfl
  have hoffset : offset? (Text.trimStart ['Z']) = some (0, []) := rfl
  unfold text ofText?
  simp only [hm, List.append_assoc, List.cons_append, day?_text h.day, hafter,
    number?_padded (Nat.zero_le _) hclock.1 (by decide),
    number?_padded (Nat.zero_le _) hclock.2 (by decide),
    number?_padded (Nat.zero_le _) h.second (by decide), mark?_cons (c := ':') rfl,
    fraction?_fractionText h.nanosecond, hoffset, Option.bind_eq_bind, Option.bind_some,
    Day.toNumber_ofNumber, hminute, h.day]
  rfl

end Instant

end Ninefold
