import Mathlib.Data.List.TakeWhile
import Ninefold.Json.Reader
import Ninefold.Json.Writer
import Ninefold.Proofs.Text

/-!
# Reading the JSON that was written

Every value that is written is read back: a string as its text, a number as its
value, an object as the members it was written with, in order and with nothing
left over. The proof goes along the value, with any text behind it; what has
been written of a value says how much fuel its reading takes.
-/

namespace Ninefold.Json

/-! ## Numbers -/

/-- What a reader of numbers stops at. -/
def Apart (rest : Text) : Prop :=
  ∀ c ∈ rest.head?, c.isDigit = false ∧ c ≠ '.' ∧ c ≠ 'e' ∧ c ≠ 'E'

theorem Apart.head {rest : Text} (h : Apart rest) : ∀ c ∈ rest.head?, c.isDigit = false :=
  fun c hc => (h c hc).1

theorem wholePart?_toDigits (n : Nat) {rest : Text} (h : Apart rest) :
    wholePart? (Nat.toDigits 10 n ++ rest) = some (Nat.toDigits 10 n, rest) := by
  obtain ⟨htake, hdrop⟩ := Text.takeWhile_toDigits_append n h.head
  cases n with
  | zero => rfl
  | succ n =>
    have hzero : ∀ t, Nat.toDigits 10 (n + 1) ++ rest ≠ '0' :: t := by
      intro t ht
      refine Text.head?_toDigits_ne_zero (Nat.succ_pos n) ?_
      rw [← Text.head?_toDigits_append (n + 1) rest, ht]
      rfl
    have hplain : wholePart? (Nat.toDigits 10 (n + 1) ++ rest) =
        digits? (Nat.toDigits 10 (n + 1) ++ rest) := by
      rw [wholePart?.eq_def]
      split
      · next ht => exact absurd ht (hzero _)
      · rfl
    have hsome : (Nat.toDigits 10 (n + 1)).isEmpty = false :=
      List.isEmpty_eq_false_iff.mpr Nat.toDigits_ne_nil
    rw [hplain, digits?, htake, hdrop, hsome]
    rfl

theorem afterFraction?_apart {rest : Text} (h : Apart rest) :
    afterFraction? rest = some (false, rest) := by
  rw [afterFraction?.eq_def]
  split
  · next t => exact absurd rfl (h '.' rfl).2.1
  · rfl

theorem afterExponent?_apart {rest : Text} (h : Apart rest) :
    afterExponent? rest = some (false, rest) := by
  cases rest with
  | nil => rfl
  | cons c rest =>
    have hc := h c rfl
    simp [afterExponent?, hc.2.2.1, hc.2.2.2]

theorem number?_toDigits (n : Nat) {rest : Text} (h : Apart rest) :
    number? (Nat.toDigits 10 n ++ rest) = some (.number (some n), rest) := by
  have hunsigned : unsigned? false (Nat.toDigits 10 n ++ rest) =
      some (.number (some n), rest) := by
    simp [unsigned?, wholePart?_toDigits n h, afterFraction?_apart h, afterExponent?_apart h]
  rw [number?.eq_def]
  split
  · next t ht =>
    -- the first character is a digit, and no sign
    have hsign : '-' ∈ (Nat.toDigits 10 n).head? := by
      rw [← Text.head?_toDigits_append n rest, ht]
      rfl
    have hdigit := Text.isDigit_toDigits n '-' (List.mem_of_mem_head? hsign)
    exact absurd hdigit (by decide)
  · exact hunsigned

/-! ## Strings -/

/-- The four digits of a control character are those of its number. -/
theorem hexValue4?_hex4 : ∀ n < 0x20,
    (match hex4 n with
      | [a, b, c, d] => hexValue4? a b c d
      | _ => none) = some n := by
  decide

/-- An escaped character is read as one code unit. -/
theorem units?_escape_append (c : Char) (rest : Text) :
    units? (escape c ++ rest) = (units? rest).map fun (us, r) => (c.toNat :: us, r) := by
  unfold escape
  split
  · next h => subst h; rfl
  split
  · next h => subst h; rfl
  split
  · next h => subst h; rfl
  split
  · next h => subst h; rfl
  split
  · next h => subst h; rfl
  split
  · next h => subst h; rfl
  split
  · next h => subst h; rfl
  split
  · next hcontrol =>
    have hvalue := hexValue4?_hex4 c.toNat hcontrol
    split at hvalue
    · next a b c' d hdigits =>
      rw [hdigits]
      show units? ('\x5c' :: 'u' :: a :: b :: c' :: d :: rest) = _
      simp [units?, hvalue]
    · cases hvalue
  · next hquote hslash _ _ _ _ _ hcontrol =>
    -- of the four rows of the reader the last is meant: no quote and no backslash
    have hplain : (decide (c.toNat < 0x20) || c == '\x5c') = false := by
      simp only [Bool.or_eq_false_iff, decide_eq_false_iff_not, beq_eq_false_iff_ne]
      exact ⟨hcontrol, hslash⟩
    show units? (c :: rest) = _
    rw [units?.eq_def]
    split
    · next h => cases h
    · next h => exact absurd (List.cons.inj h).1 hquote
    · next h => exact absurd (List.cons.inj h).1 hslash
    · next h => exact absurd (List.cons.inj h).1 hslash
    · next h =>
      obtain ⟨rfl, rfl⟩ := List.cons.inj h
      rw [hplain]
      rfl

/-- The code units of a text are those of its characters. -/
theorem units?_string (t rest : Text) :
    units? (t.flatMap escape ++ '\x22' :: rest) = some (t.map Char.toNat, rest) := by
  induction t with
  | nil => rfl
  | cons c t ih =>
    rw [List.flatMap_cons, List.append_assoc, units?_escape_append, ih]
    rfl

/-- No character is half of a surrogate pair. -/
theorem ofUnits?_map_toNat (t : Text) : ofUnits? (t.map Char.toNat) = some t := by
  induction t with
  | nil => rfl
  | cons c t ih =>
    have hc : ¬ (0xd800 ≤ c.toNat ∧ c.toNat < 0xdc00) ∧
        ¬ (0xdc00 ≤ c.toNat ∧ c.toNat < 0xe000) := by
      have hvalid : c.toNat < 0xd800 ∨ 0xdfff < c.toNat ∧ c.toNat < 0x110000 := c.valid
      omega
    rw [List.map_cons, ofUnits?.eq_def]
    simp only [if_neg hc.1, if_neg hc.2, ih, Option.map_some, Char.ofNat_toNat]

/-! ## Space -/

theorem skip_of_not_space {c : Char} {rest : Text} (h : isSpace c = false) :
    skip (c :: rest) = c :: rest := by
  rw [skip, List.dropWhile_cons, h]
  rfl

/-- The indentation of a line is passed over. -/
theorem skip_lineStart_append (depth : Nat) (rest : Text) :
    skip (Draft.lineStart depth ++ rest) = skip rest := by
  have hspace : ∀ c ∈ Draft.lineStart depth, isSpace c = true := by
    intro c hc
    rcases List.mem_cons.mp hc with rfl | hc
    · rfl
    · rw [List.eq_of_mem_replicate hc]
      rfl
  exact List.dropWhile_append_of_pos hspace

/-! ## The readers on what begins a value -/

theorem value_space (fuel : Nat) (t : Text) : value fuel (' ' :: t) = value fuel t := by
  cases fuel with
  | zero => rfl
  | succ fuel => rfl

theorem units?_writeString_tail (t rest : Text) :
    units? (t.flatMap escape ++ ['\x22'] ++ rest) = some (t.map Char.toNat, rest) := by
  rw [List.append_assoc]
  exact units?_string t rest

theorem value_string (fuel : Nat) (t rest : Text) :
    value (fuel + 1) (writeString t ++ rest) = (.string (some t), some rest) := by
  have hskip : skip (writeString t ++ rest) = '\x22' :: (t.flatMap escape ++ ['\x22'] ++ rest) :=
    skip_of_not_space rfl
  simp only [value, hskip, units?_writeString_tail, ofUnits?_map_toNat]

theorem value_number (fuel n : Nat) {rest : Text} (h : Apart rest) :
    value (fuel + 1) (Nat.toDigits 10 n ++ rest) = (.number (some n), some rest) := by
  have hread := number?_toDigits n h
  cases hdigits : Nat.toDigits 10 n with
  | nil => exact absurd hdigits Nat.toDigits_ne_nil
  | cons c t =>
    have hc : c.isDigit = true := Text.isDigit_toDigits n c (by simp [hdigits])
    have hspace : isSpace c = false := by
      have hmem : c ∉ [' ', '\n', '\t', '\r'] := by
        intro hmem
        simp only [List.mem_cons, List.not_mem_nil, or_false] at hmem
        rcases hmem with rfl | rfl | rfl | rfl <;> exact absurd hc (by decide)
      simp only [List.mem_cons, List.not_mem_nil, or_false, not_or] at hmem
      simp [isSpace, hmem]
    rw [hdigits] at hread
    rw [List.cons_append] at hread ⊢
    rw [value, skip_of_not_space hspace]
    split
    · next h => cases h
    · next h => obtain ⟨rfl, -⟩ := List.cons.inj h; exact absurd hc (by decide)
    · next h => obtain ⟨rfl, -⟩ := List.cons.inj h; exact absurd hc (by decide)
    · next h => obtain ⟨rfl, -⟩ := List.cons.inj h; exact absurd hc (by decide)
    · next h => obtain ⟨rfl, -⟩ := List.cons.inj h; exact absurd hc (by decide)
    · next h => obtain ⟨rfl, -⟩ := List.cons.inj h; exact absurd hc (by decide)
    · next h => obtain ⟨rfl, -⟩ := List.cons.inj h; exact absurd hc (by decide)
    · rw [hread]

/-- An object with members is read by the reader of members. -/
theorem value_object (fuel : Nat) {rest behind : Text} (h : skip rest = '\x22' :: behind) :
    value (fuel + 1) ('\x7b' :: rest) =
      (.object (members fuel rest).1, (members fuel rest).2) := by
  have hskip : skip ('\x7b' :: rest) = '\x7b' :: rest := skip_of_not_space rfl
  simp only [value, hskip, h]
  rfl

section Members

variable {fuel : Nat} {t key r r' : Text} {v : Json}
  (hkey : skip t = writeString key ++ ':' :: r) (hvalue : value fuel r = (v, some r'))

include hkey hvalue

/-- A member that a brace follows is the last. -/
theorem members_last {rest : Text} (hrest : skip r' = '\x7d' :: rest) :
    members (fuel + 1) t = ([(some key, v)], some rest) := by
  have hunits := units?_writeString_tail key (':' :: r)
  have hcolon : skip (':' :: r) = ':' :: r := skip_of_not_space rfl
  rw [members, hkey]
  simp only [writeString, List.cons_append, hunits, hcolon, hvalue, hrest, ofUnits?_map_toNat]

/-- A member that a comma follows has others behind it. -/
theorem members_cons {rest : Text} (hrest : skip r' = ',' :: rest) :
    members (fuel + 1) t = ((some key, v) :: (members fuel rest).1, (members fuel rest).2) := by
  have hunits := units?_writeString_tail key (':' :: r)
  have hcolon : skip (':' :: r) = ':' :: r := skip_of_not_space rfl
  rw [members, hkey]
  simp only [writeString, List.cons_append, hunits, hcolon, hvalue, hrest, ofUnits?_map_toNat]

end Members

/-! ## Values -/

namespace Draft

mutual

/-- The tree that a value is read as. -/
def tree : Draft → Json
  | .text t => .string (some t)
  | .number n => .number (some n)
  | .object ms => .object (treeMembers ms)

/-- The members that those of an object are read as. -/
def treeMembers : List (Text × Draft) → List (Option Text × Json)
  | [] => []
  | (key, value) :: rest => (some key, value.tree) :: treeMembers rest

end

theorem treeMembers_eq_map (ms : List (Text × Draft)) :
    treeMembers ms = ms.map fun (key, value) => (some key, value.tree) := by
  induction ms with
  | nil => rfl
  | cons m rest ih => rw [treeMembers, ih, List.map_cons]

mutual

/-- The fuel that reading a value takes. -/
def fuel : Draft → Nat
  | .text _ => 1
  | .number _ => 1
  | .object ms => 1 + fuelMembers ms

/-- The fuel that reading members takes. -/
def fuelMembers : List (Text × Draft) → Nat
  | [] => 0
  | (_, value) :: rest => 1 + value.fuel + fuelMembers rest

end

mutual

/-- A value is at least as long as its fuel. -/
theorem fuel_le_length : ∀ (d : Draft) (depth : Nat), d.fuel ≤ (d.indented depth).length
  | .text t, depth => by simp [fuel, indented, writeString]
  | .number n, depth => Nat.length_toDigits_pos
  | .object [], depth => by simp [fuel, fuelMembers, indented]
  | .object (m :: ms), depth => by
    have := fuelMembers_le_length (m :: ms) (depth + 1)
    simp only [fuel, indented, List.length_append, List.length_cons]
    omega

theorem fuelMembers_le_length : ∀ (ms : List (Text × Draft)) (depth : Nat),
    fuelMembers ms ≤ (indentedMembers depth ms).length
  | [], depth => by simp [fuelMembers]
  | [(key, v)], depth => by
    have := fuel_le_length v depth
    simp only [fuelMembers, indentedMembers, List.length_append, List.length_cons]
    omega
  | (key, v) :: m :: ms, depth => by
    have := fuel_le_length v depth
    have := fuelMembers_le_length (m :: ms) depth
    simp only [fuelMembers, indentedMembers, List.length_append, List.length_cons] at this ⊢
    omega

end

/-- What stands behind a member leads its line or ends the object. -/
theorem apart_lineStart_append (depth : Nat) (rest : Text) : Apart (lineStart depth ++ rest) := by
  intro c hc
  obtain rfl : '\n' = c := Option.some.inj hc
  decide

theorem apart_comma (rest : Text) : Apart (',' :: rest) := by
  intro c hc
  obtain rfl : ',' = c := Option.some.inj hc
  decide

/-- A member stands on a line of its own, its key in front. -/
theorem skip_member_append (depth : Nat) (key : Text) (v : Draft) (rest : Text) :
    skip (lineStart depth ++ writeString key ++ ':' :: ' ' :: v.indented depth ++ rest) =
      writeString key ++ ':' :: (' ' :: (v.indented depth ++ rest)) := by
  simp only [List.append_assoc, skip_lineStart_append, List.cons_append]
  exact skip_of_not_space rfl

theorem indentedMembers_cons_cons (depth : Nat) (key : Text) (v : Draft) (m : Text × Draft)
    (ms : List (Text × Draft)) :
    indentedMembers depth ((key, v) :: m :: ms) =
      lineStart depth ++ writeString key ++ ':' :: ' ' :: v.indented depth ++
        ',' :: indentedMembers depth (m :: ms) := rfl

/-- Members begin with the quote of a key. -/
theorem skip_indentedMembers_append (depth : Nat) (m : Text × Draft) (ms : List (Text × Draft))
    (rest : Text) :
    ∃ behind, skip (indentedMembers depth (m :: ms) ++ rest) = '\x22' :: behind := by
  obtain ⟨key, v⟩ := m
  cases ms with
  | nil => exact ⟨_, skip_member_append depth key v rest⟩
  | cons m ms =>
    rw [indentedMembers_cons_cons, List.append_assoc]
    exact ⟨_, skip_member_append depth key v _⟩

mutual

/-- A value is read back, whatever stands behind it that cannot belong to it. -/
theorem value_indented_append : ∀ (d : Draft) (depth fuel : Nat) (rest : Text), d.fuel ≤ fuel →
    Apart rest → value fuel (d.indented depth ++ rest) = (d.tree, some rest)
  | .text t, depth, fuel + 1, rest, _, _ => value_string fuel t rest
  | .number n, depth, fuel + 1, rest, _, hrest => value_number fuel n hrest
  | .object [], depth, fuel + 1, rest, _, _ => rfl
  | .object (_ :: _), _, 0, _, hfuel, _ => by simp [Draft.fuel] at hfuel
  | .object ((key, v) :: ms), depth, fuel + 1, rest, hfuel, _ => by
    have hmembers := members_indented_append (key, v) ms (depth + 1) depth fuel rest
      (by simp only [Draft.fuel] at hfuel; omega)
    obtain ⟨behind, hskip⟩ := skip_indentedMembers_append (depth + 1) (key, v) ms
      (lineStart depth ++ '\x7d' :: rest)
    simp only [indented, List.append_assoc, List.cons_append, List.nil_append]
    rw [value_object fuel hskip, hmembers, tree]

/-- Members are read back up to the brace that closes their object. -/
theorem members_indented_append : ∀ (m : Text × Draft) (ms : List (Text × Draft))
    (depth outer fuel : Nat) (rest : Text), fuelMembers (m :: ms) ≤ fuel →
    members fuel (indentedMembers depth (m :: ms) ++ (lineStart outer ++ '\x7d' :: rest)) =
      (treeMembers (m :: ms), some rest)
  | (_, _), _, _, _, 0, _, hfuel => by simp [fuelMembers] at hfuel
  | (key, v), [], depth, outer, fuel + 1, rest, hfuel => by
    have hvalue := value_indented_append v depth fuel (lineStart outer ++ '\x7d' :: rest)
      (by simp only [fuelMembers] at hfuel; omega) (apart_lineStart_append outer _)
    have hclosed : skip (lineStart outer ++ '\x7d' :: rest) = '\x7d' :: rest := by
      rw [skip_lineStart_append]
      exact skip_of_not_space rfl
    exact members_last (skip_member_append depth key v _)
      ((value_space fuel _).trans hvalue) hclosed
  | (key, v), m :: ms, depth, outer, fuel + 1, rest, hfuel => by
    have hbound : v.fuel ≤ fuel ∧ fuelMembers (m :: ms) ≤ fuel := by
      rw [fuelMembers] at hfuel
      omega
    have hvalue := value_indented_append v depth fuel
      (',' :: (indentedMembers depth (m :: ms) ++ (lineStart outer ++ '\x7d' :: rest)))
      hbound.1 (apart_comma _)
    have hrest := members_indented_append m ms depth outer fuel rest hbound.2
    rw [indentedMembers_cons_cons, List.append_assoc, List.cons_append,
      members_cons (skip_member_append depth key v _) ((value_space fuel _).trans hvalue)
        (skip_of_not_space rfl), hrest]
    rfl

end

/-- **What is written is read back**, whole and with nothing behind it. -/
theorem parse_pretty (d : Draft) : parse d.pretty = (d.tree, true) := by
  have hfuel : d.fuel ≤ 2 * d.pretty.length + 2 := by
    have := fuel_le_length d 0
    rw [pretty]
    omega
  have hvalue := value_indented_append d 0 (2 * d.pretty.length + 2) [] hfuel (by simp [Apart])
  rw [List.append_nil] at hvalue
  simp only [parse, show value (2 * d.pretty.length + 2) d.pretty = _ from hvalue]
  rfl

end Draft

/-! ## The characters of written JSON -/

/-- A line end, or a character that is no control character. -/
def Tame (c : Char) : Prop := c = '\n' ∨ 0x20 ≤ c.toNat

instance : DecidablePred Tame := fun c => inferInstanceAs (Decidable (c = '\n' ∨ 0x20 ≤ c.toNat))

theorem tame_of_mem_toDigits {n : Nat} {c : Char} (h : c ∈ Nat.toDigits 10 n) : Tame c := by
  have hdigit := (Text.isDigit_iff.mp (Text.isDigit_toDigits n c h)).1
  exact .inr (by omega)

/-- A text that is found tame, character by character. -/
theorem tame_of_all {t : Text} (h : t.all (fun c => decide (Tame c)) = true) : ∀ c ∈ t, Tame c :=
  fun c hc => of_decide_eq_true (List.all_eq_true.mp h c hc)

theorem tame_of_mem_escape {c ch : Char} (h : ch ∈ escape c) : Tame ch := by
  by_cases hcontrol : c.toNat < 0x20
  · have hall : ∀ n < 0x20, (escape (Char.ofNat n)).all (fun ch => decide (Tame ch)) = true := by
      decide
    exact tame_of_all (hall c.toNat hcontrol) ch (by rwa [Char.ofNat_toNat])
  · have hne : ∀ d : Char, d.toNat < 0x20 → c ≠ d := by
      rintro d hd rfl
      exact hcontrol hd
    unfold escape at h
    rw [if_neg (hne '\x08' (by decide)), if_neg (hne '\x0c' (by decide)),
      if_neg (hne '\n' (by decide)), if_neg (hne '\r' (by decide)), if_neg (hne '\t' (by decide)),
      if_neg hcontrol] at h
    split at h
    · exact tame_of_all (by decide) ch h
    split at h
    · exact tame_of_all (by decide) ch h
    · rw [List.mem_singleton.mp h]
      exact .inr (Nat.le_of_not_lt hcontrol)

theorem tame_of_mem_writeString {t : Text} {c : Char} (h : c ∈ writeString t) : Tame c := by
  simp only [writeString, List.cons_append, List.mem_cons, List.mem_append, List.mem_flatMap,
    List.not_mem_nil, or_false] at h
  rcases h with rfl | ⟨_, _, h⟩ | rfl
  · decide
  · exact tame_of_mem_escape h
  · decide

namespace Draft

theorem tame_of_mem_lineStart {depth : Nat} {c : Char} (h : c ∈ lineStart depth) : Tame c := by
  rcases List.mem_cons.mp h with rfl | h
  · decide
  · rw [List.eq_of_mem_replicate h]
    decide

/-- The line of a member is tame if its value is. -/
theorem tame_of_mem_line {depth : Nat} {v : Draft} (hv : ∀ c ∈ v.indented depth, Tame c)
    (key : Text) :
    ∀ c ∈ lineStart depth ++ writeString key ++ ':' :: ' ' :: v.indented depth, Tame c := by
  intro c h
  simp only [List.mem_append, List.mem_cons] at h
  rcases h with (h | h) | rfl | rfl | h
  · exact tame_of_mem_lineStart h
  · exact tame_of_mem_writeString h
  · decide
  · decide
  · exact hv c h

mutual

/-- No control character but line ends stands in a written value. -/
theorem tame_of_mem_indented : ∀ (d : Draft) (depth : Nat), ∀ c ∈ d.indented depth, Tame c
  | .text _, _ => fun _ h => tame_of_mem_writeString h
  | .number _, _ => fun _ h => tame_of_mem_toDigits h
  | .object [], _ => tame_of_all (t := ['\x7b', '\x7d']) (by decide)
  | .object (m :: ms), depth => by
    have hmembers := tame_of_mem_indentedMembers (m :: ms) (depth + 1)
    intro c h
    simp only [indented, List.cons_append, List.mem_cons, List.mem_append, List.not_mem_nil,
      or_false] at h
    rcases h with rfl | (h | h) | rfl
    · decide
    · exact hmembers c h
    · exact tame_of_mem_lineStart h
    · decide

theorem tame_of_mem_indentedMembers : ∀ (ms : List (Text × Draft)) (depth : Nat),
    ∀ c ∈ indentedMembers depth ms, Tame c
  | [], _ => fun _ h => by cases h
  | [(key, v)], depth => tame_of_mem_line (tame_of_mem_indented v depth) key
  | (key, v) :: m :: ms, depth => by
    have hline := tame_of_mem_line (tame_of_mem_indented v depth) key
    have hrest := tame_of_mem_indentedMembers (m :: ms) depth
    intro c h
    rw [indentedMembers_cons_cons, List.mem_append, List.mem_cons] at h
    rcases h with h | rfl | h
    · exact hline c h
    · decide
    · exact hrest c h

end

end Draft

end Ninefold.Json
