import Mathlib
import Ninefold.Proofs.Grammar
import Ninefold.Settings

/-!
# Names and numbers from users

Which texts name an axis, and which write a width of previews, told without how
they are read. Blanks around either do not count. An axis is named by its name,
each letter of it small or a capital, and the Kelvin sign counts as a letter k.
A width is a numeral with or without a plus sign, for a number that 64 bits
hold.
-/

namespace Ninefold

/-! ## Names of axes -/

namespace Axis

/-- A character that counts as a small letter. -/
inductive Spells : Char → Char → Prop where
  | small (letter : Char) : Spells letter letter
  | capital (letter : Char) : Spells letter.toUpper letter
  | kelvin : Spells '\u212a' 'k'

/-- A text that names an axis. -/
def Named (s : String) (a : Axis) : Prop :=
  ∃ core, Text.Bare (Text.ofString s) core ∧ List.Forall₂ Spells core a.name.toList

theorem isLower_of_mem_name (a : Axis) : ∀ letter ∈ a.name.toList, letter.isLower = true := by
  refine List.all_eq_true.mp ?_
  cases a <;> decide

theorem not_isLower_of_isUpper {c : Char} (h : c.isUpper = true) : ¬ c.isLower = true := by
  intro h'
  simp only [Char.isUpper, Char.isLower, Bool.and_eq_true, decide_eq_true_eq, ge_iff_le,
    UInt32.le_iff_toNat_le] at h h'
  have hrange : ('Z'.val).toNat < ('a'.val).toNat := by decide
  omega

/-- Folding a character gives the small letter that it counts as. -/
theorem fold_eq_iff {c letter : Char} (h : letter.isLower = true) :
    fold c = letter ↔ Spells c letter := by
  have hsmall : letter.toLower = letter :=
    Char.toLower_eq_of_not_isUpper fun hupper => not_isLower_of_isUpper hupper h
  have hsign : ∀ {c : Char}, c.toLower = letter → c ≠ '\u212a' := by
    rintro c hc rfl
    rw [← hc] at h
    exact absurd h (by decide)
  unfold fold
  constructor
  · intro hfold
    split at hfold
    next hkelvin =>
      rw [hkelvin, ← hfold]
      exact .kelvin
    next =>
      by_cases hupper : c.isUpper = true
      · have hcapital : letter.toUpper = c := by
          rw [← hfold, Char.toUpper_toLower_eq_toUpper,
            Char.toUpper_eq_of_not_isLower (not_isLower_of_isUpper hupper)]
        exact hcapital ▸ .capital letter
      · rw [Char.toLower_eq_of_not_isUpper hupper] at hfold
        exact hfold ▸ .small c
  · rintro (_ | _ | _)
    · rw [if_neg (hsign hsmall), hsmall]
    · have hback := (Char.toLower_toUpper_eq_toLower letter).trans hsmall
      rw [if_neg (hsign hback), hback]
    · rfl

/-- What a text folds to is the name of an axis if it spells it, letter by
letter. -/
theorem map_fold_eq_iff {core : Text} {a : Axis} :
    core.map fold = a.name.toList ↔ List.Forall₂ Spells core a.name.toList := by
  have hletters := isLower_of_mem_name a
  generalize a.name.toList = letters at hletters ⊢
  induction core generalizing letters with
  | nil => cases letters <;> simp
  | cons c core ih =>
    cases letters with
    | nil => simp
    | cons letter letters =>
      have hrest : ∀ letter ∈ letters, letter.isLower = true := fun letter h =>
        hletters letter (.tail _ h)
      rw [List.map_cons, List.cons.injEq, List.forall₂_cons]
      exact and_congr (fold_eq_iff (hletters letter (.head _))) (ih letters hrest)

/-- **The axis of a text is the one that it names.** -/
theorem ofName?_eq_some_iff {s : String} {a : Axis} : ofName? s = some a ↔ Named s a := by
  have hname : ∀ b : Axis, (b.name == Text.asString ((Text.ofString s).trim.map fold)) = true ↔
      Named s b := by
    intro b
    rw [beq_iff_eq, ← String.toList_inj, Text.asString, String.toList_ofList, eq_comm,
      map_fold_eq_iff, Named]
    simp only [Text.bare_iff, exists_eq_left']
  constructor
  · intro h
    have hfound := List.find?_some h
    exact (hname a).mp hfound
  · intro h
    unfold ofName?
    rw [← beq_iff_eq.mp ((hname a).mpr h)]
    cases a <;> decide

instance (s : String) (a : Axis) : Decidable (Named s a) :=
  decidable_of_iff _ ofName?_eq_some_iff

/-- Looking for the axis that a text names finds the axis of the text. -/
theorem find?_named (s : String) : all.find? (fun a => Named s a) = ofName? s := by
  simp only [← ofName?_eq_some_iff]
  cases h : ofName? s with
  | none => decide
  | some a => cases a <;> decide

example : Named "\tBoo\u212a " .book ∧ ¬ Named "books" .book := by decide

end Axis

/-! ## Widths -/

namespace Settings

/-- A text that writes a width of previews. -/
def Writes (value : String) (n : Nat) : Prop :=
  ∃ core, Text.Bare (Text.ofString value) core ∧ Address.Numeral core n ∧ n < 2 ^ 64

/-- **The width that is read is the one that is written.** -/
theorem width?_eq_some_iff {value : String} {n : Nat} : width? value = some n ↔ Writes value n := by
  unfold width? Writes
  have hlimit : n ≤ widthLimit ↔ n < 2 ^ 64 := by
    unfold widthLimit
    omega
  simp only [Text.bare_iff, exists_eq_left', Option.filter_eq_some_iff, Address.number?_eq_some_iff,
    decide_eq_true_eq, hlimit]

end Settings

end Ninefold
