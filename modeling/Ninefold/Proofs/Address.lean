import Ninefold.Address
import Ninefold.Proofs.Text

/-!
# Addresses read back

The address of a coordinate gives each axis the digits of its number, so a
coordinate that an address can name is read back from its own. Whatever is
read, an address can name it.
-/

namespace Ninefold

namespace Address

/-! ## Numbers -/

theorem digitsValue?_toDigits (n : Nat) : digitsValue? (Nat.toDigits 10 n) = some n := by
  have hdigits : (Nat.toDigits 10 n).all Char.isDigit = true :=
    List.all_eq_true.mpr (Text.isDigit_toDigits n)
  have hsome : (Nat.toDigits 10 n).isEmpty = false :=
    List.isEmpty_eq_false_iff.mpr Nat.toDigits_ne_nil
  rw [digitsValue?, hsome, hdigits, Nat.ofDigitChars_ten_toDigits]
  rfl

theorem number?_toDigits (n : Nat) : number? (Nat.toDigits 10 n) = some n := by
  rw [number?.eq_def]
  split
  · next t ht =>
    have hsign : '+' ∈ Nat.toDigits 10 n := by simp [ht]
    exact absurd (Text.isDigit_toDigits n _ hsign) (by decide)
  · exact digitsValue?_toDigits n

/-- The digits of a number give it where an address can name it. -/
theorem partNumber?_toDigits (n : Nat) :
    partNumber? (Nat.toDigits 10 n) = if 1 ≤ n ∧ n ≤ Position.lastNamed then some n else none := by
  have htrim : Text.trim (Nat.toDigits 10 n) = Nat.toDigits 10 n :=
    Text.trim_of_not_blank fun c hc => Text.not_isBlank_of_isDigit (Text.isDigit_toDigits n c hc)
  rw [partNumber?, htrim, number?_toDigits, Option.filter_some]
  simp only [Bool.and_eq_true, decide_eq_true_eq]

/-! ## Parts of a written address -/

/-- Three numbers between points. -/
def group (l m n : Nat) : Text :=
  Nat.toDigits 10 l ++ '.' :: (Nat.toDigits 10 m ++ '.' :: Nat.toDigits 10 n)

theorem isDigit_or_point_of_mem_group {l m n : Nat} {c : Char} (h : c ∈ group l m n) :
    c.isDigit = true ∨ c = '.' := by
  have hdigit : ∀ k, c ∈ Nat.toDigits 10 k → c.isDigit = true := fun k =>
    Text.isDigit_toDigits k c
  simp only [group, List.mem_append, List.mem_cons] at h
  rcases h with h | h | h | h | h
  · exact .inl (hdigit l h)
  · exact .inr h
  · exact .inl (hdigit m h)
  · exact .inr h
  · exact .inl (hdigit n h)

theorem splitOn_group (l m n : Nat) :
    (group l m n).splitOn '.' = [Nat.toDigits 10 l, Nat.toDigits 10 m, Nat.toDigits 10 n] := by
  have hfree : ∀ k, '.' ∉ Nat.toDigits 10 k := fun k hk =>
    absurd (Text.isDigit_toDigits k '.' hk) (by decide)
  rw [group, Text.splitOn_append_cons (hfree l), Text.splitOn_append_cons (hfree m),
    Text.splitOn_of_not_mem (hfree n)]

/-- Any nine numbers, written as those of a coordinate are. -/
def written (f : Axis → Nat) : String :=
  let n (a : Axis) : String := toString (f a)
  let group (a b d : Axis) : String := ".".intercalate [n a, n b, n d]
  "/".intercalate
    [group .library .shelf .series, group .collection .volume .book, group .chapter .sect .scroll]

theorem written_get (c : Coordinate) : written c.get = c.address := rfl

/-- The characters of a written address: three groups between slashes. -/
theorem ofString_written (f : Axis → Nat) :
    Text.ofString (written f) =
      group (f .library) (f .shelf) (f .series) ++ '/' ::
        (group (f .collection) (f .volume) (f .book) ++ '/' ::
          group (f .chapter) (f .sect) (f .scroll)) := by
  simp [Text.ofString, written, group]

/-- A written address gives each axis its digits. -/
theorem part?_written (f : Axis → Nat) (a : Axis) :
    part? (Text.ofString (written f)) a = some (Nat.toDigits 10 (f a)) := by
  have hslash : ∀ l m n, '/' ∉ group l m n := by
    intro l m n h
    rcases isDigit_or_point_of_mem_group h with h | h
    · exact absurd h (by decide)
    · exact absurd h (by decide)
  have hblank : ∀ ch ∈ Text.ofString (written f), Text.isBlank ch = false := by
    have hgroup : ∀ {l m n ch}, ch ∈ group l m n → Text.isBlank ch = false := by
      intro l m n ch h
      rcases isDigit_or_point_of_mem_group h with h | rfl
      · exact Text.not_isBlank_of_isDigit h
      · rfl
    intro ch h
    simp only [ofString_written, List.mem_append, List.mem_cons] at h
    rcases h with h | rfl | h | rfl | h
    · exact hgroup h
    · rfl
    · exact hgroup h
    · rfl
    · exact hgroup h
  rw [part?, Text.trim_of_not_blank hblank, ofString_written,
    Text.splitOn_append_cons (hslash _ _ _), Text.splitOn_append_cons (hslash _ _ _),
    Text.splitOn_of_not_mem (hslash _ _ _)]
  cases a <;> simp [Axis.index, splitOn_group]

theorem part?_address (c : Coordinate) (a : Axis) :
    part? (Text.ofString c.address) a = some (Nat.toDigits 10 (c.get a)) := part?_written c.get a

end Address

namespace Coordinate

/-- **A number that an address can name is read back**, and any other is read as
one. -/
theorem get_ofAddress_address (c : Coordinate) (a : Axis) :
    (ofAddress c.address).get a = if c.get a ≤ Position.lastNamed then c.get a else 1 := by
  have hone := c.one_le_get a
  rw [ofAddress, get_ofPositions, Address.part?_address, Address.position, Option.bind_some,
    Address.partNumber?_toDigits]
  by_cases hnamed : c.get a ≤ Position.lastNamed
  · rw [if_pos ⟨hone, hnamed⟩, if_pos hnamed]
    exact Position.number_nearest_of_mem hone (c.get_le_limit a)
  · rw [if_neg fun h => hnamed h.2, if_neg hnamed]
    rfl

theorem ofAddress_address {c : Coordinate} (h : c.Addressable) : ofAddress c.address = c :=
  ext_get fun a => (get_ofAddress_address c a).trans (if_pos (h a))

/-- Whatever is read, an address can name it. -/
theorem addressable_ofAddress (s : String) : (ofAddress s).Addressable := by
  intro a
  rw [ofAddress, get_ofPositions, Address.position]
  split
  · next n h =>
    obtain ⟨part, _, hpart⟩ := Option.bind_eq_some_iff.mp h
    have hbounds := (Option.filter_eq_some_iff.mp hpart).2
    simp only [Bool.and_eq_true, decide_eq_true_eq] at hbounds
    rw [Position.number_nearest]
    have : Position.lastNamed = 999 := rfl
    omega
  · decide

end Coordinate

end Ninefold
