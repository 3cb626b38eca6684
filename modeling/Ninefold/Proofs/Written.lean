import Mathlib
import Ninefold.Proofs.Grammar
import Ninefold.Proofs.Record

/-!
# Written coordinates

Every coordinate has a written form, its address, and no two share one. Reading
an address back loses exactly what no address can name: a number beyond 999 is
dropped with a warning, and whatever has been read from an address, be it as it
may, is written in a form that is read without one. The JSON of a coordinate is
its address between quotes, and says no more and no less.
-/

namespace Ninefold

namespace Address

/-- The digits of a number name it if it is in range, and else nothing. -/
theorem names_toDigits_iff {n m : Nat} :
    Names (Nat.toDigits 10 n) m ↔ m = n ∧ 1 ≤ n ∧ n ≤ 999 := by
  have hlast : Position.lastNamed = 999 := rfl
  rw [← partNumber?_eq_some_iff, partNumber?_toDigits, hlast]
  by_cases h : 1 ≤ n ∧ n ≤ 999
  · simp [h, eq_comm]
  · simp [h]

/-- What is dropped of a written coordinate are its numbers out of range. -/
theorem dropped_address_iff {c : Coordinate} {a : Axis} {part : Text} :
    Dropped (Text.ofString c.address) a part ↔
      part = Nat.toDigits 10 (c.get a) ∧ 999 < c.get a := by
  rw [Dropped, partOf_iff, part?_address, Option.some_inj]
  have hone := c.one_le_get a
  constructor
  · rintro ⟨rfl, _, hunnamed⟩
    refine ⟨rfl, ?_⟩
    by_contra hsmall
    exact hunnamed ⟨c.get a, names_toDigits_iff.mpr ⟨rfl, hone, by omega⟩⟩
  · rintro ⟨rfl, hlarge⟩
    obtain ⟨digit, hdigit⟩ := List.exists_mem_of_ne_nil _ (Nat.toDigits_ne_nil (b := 10))
    refine ⟨rfl, ⟨digit, hdigit, ?_⟩, ?_⟩
    · exact Text.not_isBlank_of_isDigit (Text.isDigit_toDigits _ digit hdigit)
    · rintro ⟨n, hn⟩
      have := names_toDigits_iff.mp hn
      omega

/-- Numbers that are written alike are the same, whatever they are. -/
theorem written_injective : Function.Injective written := by
  intro f g h
  funext a
  -- each axis has its own part of the address, and digits tell their number
  have hparts : part? (Text.ofString (written f)) a = part? (Text.ofString (written g)) a := by
    rw [h]
  rw [part?_written, part?_written, Option.some_inj] at hparts
  calc
    f a = Nat.ofDigitChars 10 (Nat.toDigits 10 (f a)) 0 := Nat.ofDigitChars_ten_toDigits.symm
    _ = Nat.ofDigitChars 10 (Nat.toDigits 10 (g a)) 0 := by rw [hparts]
    _ = g a := Nat.ofDigitChars_ten_toDigits

end Address

namespace Coordinate

open Address

/-- A written coordinate gives rise to no warning exactly if an address can name
it. -/
theorem addressNotes_address_eq_nil_iff {c : Coordinate} :
    addressNotes c.address = [] ↔ c.Addressable := by
  rw [addressNotes_eq, List.map_eq_nil_iff, List.eq_nil_iff_forall_not_mem]
  have hlast : Position.lastNamed = 999 := rfl
  constructor
  · intro hnone a
    by_contra hlarge
    refine hnone (a, Nat.toDigits 10 (c.get a)) (mem_droppedParts.mpr ?_)
    exact dropped_address_iff.mpr ⟨rfl, by omega⟩
  · rintro h ⟨a, part⟩ hdropped
    have hlarge := (dropped_address_iff.mp (mem_droppedParts.mp hdropped)).2
    have := h a
    omega

theorem ofAddress_address_iff {c : Coordinate} : ofAddress c.address = c ↔ c.Addressable := by
  constructor
  · intro h
    rw [← h]
    exact addressable_ofAddress c.address
  · exact ofAddress_address

/-- No two coordinates share a written form. -/
theorem address_injective : Function.Injective address := by
  intro c d h
  rw [← written_get, ← written_get] at h
  exact ext_get (congrFun (written_injective h))

/-! ## In JSON -/

/-- The JSON value of a coordinate. -/
def draft (c : Coordinate) : Json.Draft := .text (Text.ofString c.address)

/-- The JSON of a coordinate is read as its address is, with the same
warnings. -/
theorem notes_read_draft (c : Coordinate) :
    (Reading.whole read c.draft.compact).notes =
      (some (ofAddress c.address), addressNotes c.address) := by
  have hparse : Json.parse c.draft.compact = (.string (some (Text.ofString c.address)), true) :=
    c.draft.parse_pretty
  rw [Reading.whole, hparse]
  show (some (ofAddress (Text.ofString c.address).asString),
    [] ++ addressNotes (Text.ofString c.address).asString) = _
  rw [Text.asString_ofString, List.nil_append]

/-- **Coordinates read as they are written.** Whatever is read as an address
comes to nine numbers from 1 to 999, and its written form is read as the same
coordinate without a warning. A coordinate is read back from its written form,
and without a warning, exactly if an address can name it, and so it is from its
JSON. Coordinates that are written alike are the same, and so are any nine
numbers that are written alike in that form. -/
theorem reads_as_written (s : String) (c d : Coordinate) (f g : Axis → Nat) :
    (∀ a, 1 ≤ (ofAddress s).get a ∧ (ofAddress s).get a ≤ 999) ∧
      ofAddress (ofAddress s).address = ofAddress s ∧
      addressNotes (ofAddress s).address = [] ∧
      (ofAddress c.address = c ↔ c.Addressable) ∧
      (addressNotes c.address = [] ↔ c.Addressable) ∧
      ((Reading.whole read c.draft.compact).notes = (some c, []) ↔ c.Addressable) ∧
      (c.address = d.address ↔ c = d) ∧
      c.address = written c.get ∧ (written f = written g ↔ f = g) := by
  have hnamed := addressable_ofAddress s
  refine ⟨fun a => ⟨one_le_get _ a, hnamed a⟩, ofAddress_address hnamed,
    addressNotes_address_eq_nil_iff.mpr hnamed, ofAddress_address_iff,
    addressNotes_address_eq_nil_iff, ?_, address_injective.eq_iff, (written_get c).symm,
    written_injective.eq_iff⟩
  rw [notes_read_draft, Prod.mk.injEq, Option.some_inj, ofAddress_address_iff,
    addressNotes_address_eq_nil_iff, and_self]

/-- Blanks, signs and zeros of an address are not written again. -/
example : (ofAddress " +2.x / 03").address = "2.1.1/3.1.1/1.1.1" := by decide

end Coordinate

end Ninefold
