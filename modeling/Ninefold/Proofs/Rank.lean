import Mathlib
import Ninefold.Proofs.Odometer

/-!
# The rank of a coordinate

The coordinates that an address can name are the numbers of nine digits to the
base 999, the position on `scroll` being the last digit. A successor adds one to
the number: the full digits at its end become zero and the digit before them
goes up. Therefore the successors of a coordinate, one after another, are all
coordinates behind it, each once and in order, and they end at the last one.
-/

namespace Ninefold.Coordinate

variable {c d e : Coordinate} {o : Option Coordinate}

/-! ## The number of a coordinate -/

/-- The digits of a coordinate, the last one first. -/
def digits (c : Coordinate) (axes : List Axis) : List Nat := axes.reverse.map (c.get · - 1)

/-- The number of a coordinate, where the origin has number zero. -/
def rank (c : Coordinate) : Nat := Nat.ofDigits Position.lastNamed (c.digits Axis.all)

@[simp] theorem length_digits (c : Coordinate) (axes : List Axis) :
    (c.digits axes).length = axes.length := by simp [digits]

theorem digits_append (c : Coordinate) (axes finer : List Axis) :
    c.digits (axes ++ finer) = c.digits finer ++ c.digits axes := by simp [digits]

theorem digits_congr {axes : List Axis} (h : ∀ a ∈ axes, c.get a = d.get a) :
    c.digits axes = d.digits axes :=
  List.map_congr_left fun a ha => by rw [h a (List.mem_reverse.mp ha)]

/-- A row of the largest digit is one less than a one with as many zeros. -/
theorem ofDigits_digits_full {axes : List Axis} (h : ∀ a ∈ axes, c.get a = Position.lastNamed) :
    Nat.ofDigits Position.lastNamed (c.digits axes) + 1 = Position.lastNamed ^ axes.length := by
  induction axes with
  | nil => rfl
  | cons a finer ih =>
    have hfiner := ih fun b hb => h b (List.mem_cons_of_mem a hb)
    have ha := h a List.mem_cons_self
    have hsplit : c.digits (a :: finer) = c.digits finer ++ [c.get a - 1] := by
      rw [← List.singleton_append, digits_append]
      rfl
    rw [hsplit, Nat.ofDigits_append, Nat.ofDigits_singleton, length_digits, List.length_cons,
      pow_succ, ha, ← hfiner]
    have hlast : Position.lastNamed = 999 := rfl
    rw [hlast]
    omega

theorem ofDigits_digits_first {axes : List Axis} (h : ∀ a ∈ axes, c.get a = 1) :
    Nat.ofDigits Position.lastNamed (c.digits axes) = 0 := by
  have hzero : c.digits axes = List.replicate axes.length 0 := by
    refine List.eq_replicate_iff.mpr ⟨length_digits c axes, fun n hn => ?_⟩
    obtain ⟨a, ha, rfl⟩ := List.mem_map.mp hn
    rw [h a (List.mem_reverse.mp ha)]
  rw [hzero, Nat.ofDigits_replicate_zero]

/-- **A successor has the next number.** -/
theorem rank_successor (hc : c.Addressable) (h : c.successor = some e) :
    e.rank = c.rank + 1 := by
  obtain ⟨a, hroom, hfull, rfl⟩ := successor_eq_some_iff.mp h
  obtain ⟨coarse, fine, hsplit⟩ := List.append_of_mem (Axis.mem_all a)
  have hbefore := Axis.mem_before_iff hsplit.symm
  have hafter := Axis.mem_after_iff hsplit.symm
  -- the axis of the step is the digit that goes up
  have hup : (c.next a).get a = c.get a + 1 := by
    rw [get_next, if_neg (Nat.lt_irrefl _), if_pos rfl]
    omega
  have hsame : (c.next a).digits coarse = c.digits coarse := by
    refine digits_congr fun b hb => ?_
    rw [get_next, if_pos ((hbefore b).mp hb)]
  have hfirst : ∀ b ∈ fine, (c.next a).get b = 1 := by
    intro b hb
    have hlt := (hafter b).mp hb
    rw [get_next, if_neg (by omega), if_neg (fun heq => by subst heq; omega)]
  have hlast : ∀ b ∈ fine, c.get b = Position.lastNamed := fun b hb =>
    Nat.le_antisymm (hc b) (hfull b ((hafter b).mp hb))
  have hdigits : ∀ k : Coordinate, k.rank =
      Nat.ofDigits Position.lastNamed (k.digits fine) +
        Position.lastNamed ^ fine.length * ((k.get a - 1) +
          Position.lastNamed * Nat.ofDigits Position.lastNamed (k.digits coarse)) := by
    intro k
    have hall : k.digits Axis.all = k.digits fine ++ (k.get a - 1) :: k.digits coarse := by
      rw [hsplit, digits_append, ← List.singleton_append, digits_append, List.append_assoc]
      rfl
    rw [rank, hall, Nat.ofDigits_append, Nat.ofDigits_cons, length_digits]
  have hcarry := ofDigits_digits_full hlast
  have hone := c.one_le_get a
  rw [hdigits (c.next a), hdigits c, hsame, hup, ofDigits_digits_first hfirst, ← hcarry]
  obtain ⟨n, hn⟩ := Nat.exists_eq_add_of_le' hone
  rw [hn]
  simp only [Nat.add_sub_cancel]
  ring

/-! ## All that is ahead -/

/-- The course from a coordinate to the end passes what is ahead of it. -/
theorem mem_course_iff (hc : c.Addressable) :
    d ∈ course (room (some c)) (some c) ↔ d ∈ c.ahead := by
  induction hn : room (some c) generalizing c with
  | zero =>
    rw [room_some hc] at hn
    cases hn
  | succ n ih =>
    rw [room_some hc, Nat.succ.injEq] at hn
    rw [course, List.mem_cons]
    cases hs : c.successor with
    | none => rw [course_none, ahead_of_successor_none hc hs]; simp
    | some e =>
      rw [hs] at hn
      rw [ih (hc.successor hs) hn, ahead_of_successor hc hs, Set.mem_insert_iff]

/-- Where a course ends, the successors end. -/
theorem iterate_successor_eq_none {n : Nat} (ho : ∀ c ∈ o, c.Addressable) (h : room o ≤ n) :
    (· >>= Coordinate.successor)^[n] o = none := by
  induction n generalizing o with
  | zero =>
    cases o with
    | none => rfl
    | some c =>
      rw [room_some (ho c rfl)] at h
      cases h
  | succ n ih =>
    rw [Function.iterate_succ_apply]
    cases o with
    | none => exact ih (o := none) (fun c hc => by cases hc) (Nat.zero_le n)
    | some c =>
      have hc := ho c rfl
      rw [room_some hc] at h
      exact ih (o := c.successor) (fun e he => hc.successor he) (Nat.le_of_succ_le_succ h)

theorem iterate_successor_eq_getElem? (ho : ∀ c ∈ o, c.Addressable) (n : Nat) :
    (· >>= Coordinate.successor)^[n] o = (course (room o) o)[n]? := by
  have hlength := length_course ho (Nat.le_refl (room o))
  by_cases h : n < room o
  · rw [iterate_successor_course (hlength.symm ▸ h), List.getElem?_eq_getElem]
  · rw [iterate_successor_eq_none ho (Nat.not_lt.mp h),
      List.getElem?_eq_none (hlength.symm ▸ Nat.not_lt.mp h)]

/-- A number of successors add as much to the number. -/
theorem rank_iterate_successor {n : Nat} (hc : c.Addressable)
    (h : (· >>= Coordinate.successor)^[n] (some c) = some d) : d.rank = c.rank + n := by
  induction n generalizing c with
  | zero =>
    obtain rfl : c = d := Option.some.inj h
    exact (Nat.add_zero _).symm
  | succ n ih =>
    rw [Function.iterate_succ_apply] at h
    cases hs : c.successor with
    | none =>
      have hnone := iterate_successor_eq_none (o := none) (fun c hc => by cases hc) (Nat.zero_le n)
      replace h : (· >>= Coordinate.successor)^[n] c.successor = some d := h
      rw [hs, hnone] at h
      cases h
    | some e =>
      replace h : (· >>= Coordinate.successor)^[n] c.successor = some d := h
      rw [hs] at h
      rw [ih (hc.successor hs) h, rank_successor hc hs]
      omega

/-! ## The order of the numbers -/

theorem rank_lt_of_lt (hc : c.Addressable) (hd : d.Addressable) (h : c < d) :
    c.rank < d.rank := by
  have hmem : d ∈ course (room (some c)) (some c) :=
    (mem_course_iff hc).mpr ⟨hd, KeyOrder.not_lt_of_lt h⟩
  obtain ⟨n, hn, hget⟩ := List.mem_iff_getElem.mp hmem
  have hrank := rank_iterate_successor hc (iterate_successor_course hn)
  rw [hget] at hrank
  cases n with
  | zero =>
    have hsame : (· >>= Coordinate.successor)^[0] (some c) = some d :=
      (iterate_successor_course hn).trans (congrArg some hget)
    exact absurd (Option.some.inj hsame ▸ h) (KeyOrder.irrefl d)
  | succ n => omega

/-- The coordinates are ordered as their numbers are. -/
theorem rank_lt_iff (hc : c.Addressable) (hd : d.Addressable) : c.rank < d.rank ↔ c < d := by
  refine ⟨fun h => ?_, rank_lt_of_lt hc hd⟩
  by_contra hcd
  by_cases hdc : d < c
  · have := rank_lt_of_lt hd hc hdc
    omega
  · rw [KeyOrder.connected hcd hdc] at h
    omega

theorem rank_injective (hc : c.Addressable) (hd : d.Addressable) (h : c.rank = d.rank) :
    c = d :=
  KeyOrder.connected (fun hlt => by have := rank_lt_of_lt hc hd hlt; omega)
    fun hlt => by have := rank_lt_of_lt hd hc hlt; omega

/-- What is addressable and behind a coordinate is what is ahead of its
successor. -/
theorem mem_course_successor_iff (hc : c.Addressable) :
    d ∈ course (room c.successor) c.successor ↔ d.Addressable ∧ c < d := by
  cases hs : c.successor with
  | none =>
    rw [course_none]
    constructor
    · intro h
      cases h
    · rintro ⟨hd, hcd⟩
      exact absurd hcd (not_lt_of_successor_none hs hd)
  | some e =>
    rw [mem_course_iff (hc.successor hs)]
    constructor
    · rintro ⟨hd, hde⟩
      refine ⟨hd, ?_⟩
      by_cases hed : e < d
      · exact KeyOrder.trans (lt_successor hs) hed
      · exact KeyOrder.connected hed hde ▸ lt_successor hs
    · rintro ⟨hd, hcd⟩
      exact ⟨hd, not_lt_successor hs hd hcd⟩

/-- **The successor is the coordinate right behind.** It is missing exactly
behind the coordinate with 999 on every axis. Otherwise it is the least of the
coordinates behind that an address can name, and the one with the next number,
where the numbers are ordered as the coordinates are. The successors of a
coordinate, one after another, are all of those coordinates, each once and in
order, and then there is none. -/
theorem successor_right_behind (hc : c.Addressable) :
    (c.successor = none ↔ ∀ a, c.get a = 999) ∧
      (∀ e, c.successor = some e ↔
        e.Addressable ∧ c < e ∧ ∀ d : Coordinate, d.Addressable → c < d → e = d ∨ e < d) ∧
      (∀ e, c.successor = some e ↔ e.Addressable ∧ e.rank = c.rank + 1) ∧
      (∀ d : Coordinate, d.Addressable → (c < d ↔ c.rank < d.rank)) ∧
      ∃ behind : List Coordinate, behind.Pairwise (fun d e => d < e) ∧
        (∀ d, d ∈ behind ↔ d.Addressable ∧ c < d) ∧
        ∀ n, (· >>= Coordinate.successor)^[n + 1] (some c) = behind[n]? := by
  have hmiss : ∀ e : Coordinate, e.Addressable → c < e → ∃ f, c.successor = some f := by
    intro e he hce
    cases hs : c.successor with
    | none => exact absurd hce (not_lt_of_successor_none hs he)
    | some f => exact ⟨f, rfl⟩
  refine ⟨?_, fun e => ?_, fun e => ?_, fun d hd => (rank_lt_iff hc hd).symm, ?_⟩
  · rw [successor_eq_none_iff]
    exact forall_congr' fun a => ⟨Nat.le_antisymm (hc a), fun h => h.ge⟩
  · constructor
    · intro hs
      refine ⟨hc.successor hs, lt_successor hs, fun d hd hcd => ?_⟩
      by_cases hed : e < d
      · exact .inr hed
      · exact .inl (KeyOrder.connected hed (not_lt_successor hs hd hcd))
    · rintro ⟨he, hce, hleast⟩
      obtain ⟨f, hs⟩ := hmiss e he hce
      rcases hleast f (hc.successor hs) (lt_successor hs) with rfl | hef
      · exact hs
      · exact absurd hef (not_lt_successor hs he hce)
  · constructor
    · exact fun hs => ⟨hc.successor hs, rank_successor hc hs⟩
    · rintro ⟨he, hrank⟩
      obtain ⟨f, hs⟩ := hmiss e he ((rank_lt_iff hc he).mp (by omega))
      rw [hs, rank_injective (hc.successor hs) he ((rank_successor hc hs).trans hrank.symm)]
  · refine ⟨course (room c.successor) c.successor, pairwise_course _ _,
      fun d => mem_course_successor_iff hc, fun n => ?_⟩
    rw [Function.iterate_succ_apply]
    exact iterate_successor_eq_getElem? (fun e he => hc.successor he) n

/-- A coordinate with full axes before the one that has room. -/
def fullSection : Coordinate :=
  ((origin.set .chapter 4).set .sect 999).set .scroll 999

/-- The next chapter comes behind a full section of a chapter. -/
theorem successor_right_behind_fullSection :
    fullSection.Addressable ∧ fullSection.successor = some (origin.set .chapter 5) ∧
      (origin.set .chapter 5).rank = fullSection.rank + 1 ∧
      (∀ d : Coordinate, d.Addressable → fullSection < d →
        origin.set .chapter 5 = d ∨ origin.set .chapter 5 < d) ∧
      last.Addressable ∧ last.successor = none := by
  have hplace : fullSection.Addressable := fun a => by cases a <;> decide
  have hnext : fullSection.successor = some (origin.set .chapter 5) := by decide
  obtain ⟨-, hleast, hrank, -⟩ := successor_right_behind hplace
  obtain ⟨hnone, -⟩ := successor_right_behind addressable_last
  exact ⟨hplace, hnext, ((hrank _).mp hnext).2, ((hleast _).mp hnext).2.2, addressable_last,
    hnone.mpr get_last⟩

end Ninefold.Coordinate
