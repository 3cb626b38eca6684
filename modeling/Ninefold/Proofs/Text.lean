import Mathlib.Data.List.DropRight
import Ninefold.Text.Blank

/-!
# Pieces of texts

What readers rely on in a text that was written for them: that digits are no
blanks, that pieces without a sign are found again between signs, and that the
digits of a number end where no digit follows.
-/

namespace Ninefold.Text

/-! ## Blanks -/

theorem isDigit_iff {c : Char} : c.isDigit = true ↔ 48 ≤ c.toNat ∧ c.toNat ≤ 57 := by
  simp only [Char.isDigit, Bool.and_eq_true, decide_eq_true_eq, ge_iff_le, UInt32.le_iff_toNat_le]
  rfl

theorem not_isBlank {c : Char} (h : 33 ≤ c.toNat ∧ c.toNat ≤ 126) : isBlank c = false := by
  simp only [isBlank, Bool.or_eq_false_iff, Bool.and_eq_false_iff, decide_eq_false_iff_not,
    beq_eq_false_iff_ne]
  omega

theorem not_isBlank_of_isDigit {c : Char} (h : c.isDigit = true) : isBlank c = false := by
  have := isDigit_iff.mp h
  exact not_isBlank (by omega)

/-- A text without blanks has none at its ends. -/
theorem trim_of_not_blank {t : Text} (h : ∀ c ∈ t, isBlank c = false) : t.trim = t := by
  have hstart : trimStart t = t := by
    cases t with
    | nil => rfl
    | cons c t =>
      rw [trimStart, List.dropWhile_cons, h c (by simp)]
      rfl
  have hend : trimEnd t = t := by
    clear hstart
    induction t with
    | nil => rfl
    | cons c u ih =>
      have hrest : trimEnd u = u := ih fun c hc => h c (by simp [hc])
      show (if (trimEnd u).isEmpty && isBlank c then [] else c :: trimEnd u) = c :: u
      rw [h c (by simp), Bool.and_false, hrest]
      rfl
  rw [trim, hstart, hend]

theorem trimEnd_cons (c : Char) (t : Text) :
    trimEnd (c :: t) = if (trimEnd t).isEmpty && isBlank c then [] else c :: trimEnd t := rfl

theorem trimEnd_trimEnd (t : Text) : trimEnd (trimEnd t) = trimEnd t := by
  induction t with
  | nil => rfl
  | cons c t ih =>
    rw [trimEnd_cons]
    split
    · rfl
    next hkept => rw [trimEnd_cons, ih, if_neg hkept]

/-- A text that begins with no blank does not begin with one when blanks at its
end are gone. -/
theorem trimStart_trimEnd {t : Text} (h : trimStart t = t) :
    trimStart (trimEnd t) = trimEnd t := by
  cases t with
  | nil => rfl
  | cons c t =>
    have hc : isBlank c = false := by
      simpa using List.dropWhile_eq_self_iff.mp h (List.length_pos_of_mem (List.mem_cons_self))
    rw [trimEnd_cons, hc, Bool.and_false, if_neg Bool.false_ne_true, trimStart,
      List.dropWhile_cons_of_neg (by rw [hc]; decide)]

theorem trim_trim (t : Text) : t.trim.trim = t.trim := by
  have hstart : trimStart (trimStart t) = trimStart t :=
    List.dropWhile_idempotent isBlank t
  rw [trim, trim, trimStart_trimEnd hstart, trimEnd_trimEnd]

/-! ## Splitting -/

theorem beq_eq_false_of_not_mem {sign : Char} {t : Text} (h : sign ∉ t) :
    ∀ ch ∈ t, (ch == sign) = false := by
  intro ch hch
  rw [beq_eq_false_iff_ne]
  rintro rfl
  exact h hch

/-- What stands on the two sides of a sign is split on its own. -/
theorem splitOn_append (sign : Char) (a b : Text) :
    (a ++ sign :: b).splitOn sign = a.splitOn sign ++ b.splitOn sign :=
  List.splitOnP_append_cons a b (beq_self_eq_true sign)

/-- A piece in front of the first sign comes first. -/
theorem splitOn_append_cons {sign : Char} {a : Text} (h : sign ∉ a) (t : Text) :
    (a ++ sign :: t).splitOn sign = a :: t.splitOn sign :=
  List.splitOn_append_cons_of_forall_mem_beq_eq_false (beq_eq_false_of_not_mem h) _
    (beq_self_eq_true sign) t

theorem splitOn_of_not_mem {sign : Char} {t : Text} (h : sign ∉ t) : t.splitOn sign = [t] :=
  List.splitOn_eq_singleton_of_beq_eq_false (beq_eq_false_of_not_mem h)

/-- No piece holds the sign that the text is split at. -/
theorem not_mem_of_mem_splitOn {sign : Char} {t piece : Text} (h : piece ∈ t.splitOn sign) :
    sign ∉ piece := by
  induction t generalizing piece with
  | nil => simp_all
  | cons c t ih =>
    rw [List.splitOn_cons_eq_if_modifyHead] at h
    obtain ⟨first, rest, hsplit⟩ := List.exists_cons_of_ne_nil (List.splitOn_ne_nil sign t)
    by_cases hc : (c == sign) = true
    · rw [if_pos hc] at h
      rcases List.mem_cons.mp h with rfl | h
      · simp
      · exact ih h
    · -- the character joins the first of the pieces behind it
      rw [if_neg hc, hsplit, List.modifyHead_cons] at h
      rcases List.mem_cons.mp h with rfl | h
      · have hfirst : sign ∉ first := ih (by simp [hsplit])
        have hne : sign ≠ c := fun he => hc (by simp [he])
        simp [hfirst, hne]
      · exact ih (by simp [hsplit, h])

/-- With fewer pieces a text is shorter by pieces and signs. -/
theorem intercalate_sublist (sign : Text) {pieces pieces' : List Text}
    (h : pieces.Sublist pieces') :
    (sign.intercalate pieces).Sublist (sign.intercalate pieces') := by
  induction h with
  | slnil => exact List.Sublist.refl _
  | @cons pieces pieces' piece h ih =>
    cases pieces' with
    | nil =>
      rw [List.sublist_nil.mp h]
      exact List.nil_sublist _
    | cons next rest =>
      rw [List.intercalate_cons_cons]
      exact ih.trans (List.sublist_append_right _ _)
  | @cons_cons pieces pieces' piece h ih =>
    cases pieces' with
    | nil => rw [List.sublist_nil.mp h]
    | cons next' rest' =>
      rw [List.intercalate_cons_cons]
      cases pieces with
      | nil =>
        rw [List.intercalate_singleton, List.append_assoc]
        exact List.sublist_append_left _ _
      | cons next rest =>
        rw [List.intercalate_cons_cons]
        exact ih.append_left _

/-! ## Digits -/

theorem isDigit_toDigits (n : Nat) : ∀ c ∈ Nat.toDigits 10 n, c.isDigit = true := fun _ hc =>
  Nat.isDigit_of_mem_toDigits (by decide) (by decide) hc

/-- The digits of a number end where no digit follows. -/
theorem takeWhile_toDigits_append (n : Nat) {rest : Text}
    (h : ∀ c ∈ rest.head?, c.isDigit = false) :
    (Nat.toDigits 10 n ++ rest).takeWhile Char.isDigit = Nat.toDigits 10 n ∧
      (Nat.toDigits 10 n ++ rest).dropWhile Char.isDigit = rest := by
  have hrest : rest.takeWhile Char.isDigit = [] ∧ rest.dropWhile Char.isDigit = rest := by
    cases rest with
    | nil => exact ⟨rfl, rfl⟩
    | cons c rest => simp [h c rfl]
  rw [List.takeWhile_append_of_pos (isDigit_toDigits n),
    List.dropWhile_append_of_pos (isDigit_toDigits n), hrest.1,
    hrest.2, List.append_nil]
  exact ⟨rfl, rfl⟩

/-- The digits of a number come first in what they begin. -/
theorem head?_toDigits_append (n : Nat) (rest : Text) :
    (Nat.toDigits 10 n ++ rest).head? = (Nat.toDigits 10 n).head? := by
  cases h : Nat.toDigits 10 n with
  | nil => exact absurd h Nat.toDigits_ne_nil
  | cons c t => rfl

/-- A number other than zero does not begin with a zero. -/
theorem head?_toDigits_ne_zero {n : Nat} (h : 0 < n) : (Nat.toDigits 10 n).head? ≠ some '0' := by
  induction n using Nat.strongRecOn with
  | ind n ih =>
    rw [Nat.toDigits_eq_if (by decide)]
    by_cases hsmall : n < 10
    · rw [if_pos hsmall]
      have hdigit : ∀ k, k < 10 → 0 < k → [k.digitChar].head? ≠ some '0' := by decide
      exact hdigit n hsmall h
    · rw [if_neg hsmall, head?_toDigits_append]
      exact ih (n / 10) (by omega) (by omega)

end Ninefold.Text
