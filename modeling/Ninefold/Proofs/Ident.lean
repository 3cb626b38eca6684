import Ninefold.Ident
import Ninefold.Proofs.Text

/-!
# Identifiers read back

An identifier is read back from its written form: the hyphens part it into its
five groups again, and each letter is that of one digit.
-/

namespace Ninefold.Ident

/-- No letter of a digit is one of the marks that a written form may have. -/
theorem letter_not_mark :
    ∀ d : Fin 16, letter d ≠ '-' ∧ letter d ≠ '\x7b' ∧ letter d ≠ 'u' := by decide

/-- The letters of digits are read as these digits. -/
theorem mapM_digit?_letter (ds : List (Fin 16)) : (ds.map letter).mapM digit? = some ds := by
  induction ds with
  | nil => rfl
  | cons d ds ih => simp [List.mapM_cons, ih]

/-- The letters of an identifier without its hyphens. -/
def letters (i : Ident) : Text := i.digits.map letter

theorem length_letters (i : Ident) : i.letters.length = 32 := by
  rw [letters, List.length_map, i.length_eq]

theorem ofLetters?_letters (i : Ident) : ofLetters? i.letters = some i := by
  rw [ofLetters?, letters, mapM_digit?_letter]
  simp [i.length_eq]

theorem hyphen_not_mem_letters (i : Ident) : '-' ∉ i.letters := by
  intro h
  obtain ⟨d, _, hd⟩ := List.mem_map.mp h
  exact (letter_not_mark d).1 hd

/-- The hyphens part the written form into its groups. -/
theorem ungroup?_text (i : Ident) : ungroup? i.text = some i.letters := by
  have hfree : ∀ {t : Text}, t.Sublist i.letters → '-' ∉ t := fun ht h =>
    i.hyphen_not_mem_letters (ht.subset h)
  have htake : ∀ m n, ((i.letters.drop m).take n).Sublist i.letters := fun m n =>
    (List.take_sublist n _).trans (List.drop_sublist m _)
  have hsplit : i.text.splitOn '-' =
      [i.letters.take 8, (i.letters.drop 8).take 4, (i.letters.drop 12).take 4,
        (i.letters.drop 16).take 4, i.letters.drop 20] := by
    show List.splitOn '-' (i.letters.take 8 ++ '-' :: (i.letters.drop 8).take 4 ++
      '-' :: (i.letters.drop 12).take 4 ++ '-' :: (i.letters.drop 16).take 4 ++
        '-' :: i.letters.drop 20) = _
    simp only [List.append_assoc, List.cons_append]
    rw [Text.splitOn_append_cons (hfree (List.take_sublist 8 _)),
      Text.splitOn_append_cons (hfree (htake 8 4)), Text.splitOn_append_cons (hfree (htake 12 4)),
      Text.splitOn_append_cons (hfree (htake 16 4)),
      Text.splitOn_of_not_mem (hfree (List.drop_sublist 20 _))]
  have hlengths : [i.letters.take 8, (i.letters.drop 8).take 4, (i.letters.drop 12).take 4,
      (i.letters.drop 16).take 4, i.letters.drop 20].map List.length = [8, 4, 4, 4, 12] := by
    simp [length_letters]
  -- the groups follow each other without a gap
  have hjoin : i.letters.take 8 ++ (i.letters.drop 8).take 4 ++ (i.letters.drop 12).take 4 ++
      (i.letters.drop 16).take 4 ++ i.letters.drop 20 = i.letters := by
    have hnext : ∀ m n, i.letters.take m ++ (i.letters.drop m).take n = i.letters.take (m + n) :=
      fun m n => (List.take_add ..).symm
    rw [hnext, hnext, hnext, List.take_append_drop]
  rw [ungroup?, hsplit]
  simp only [hlengths, if_true, hjoin]

/-- **An identifier is read back from its written form.** -/
theorem ofText?_text (i : Ident) : ofText? i.text = some i := by
  have hlength : i.text.length ≠ 32 := by
    have := i.length_letters
    simp only [letters] at this
    simp [text, this]
  -- the form begins with a letter, so neither a brace nor a name space is taken off
  have hhead : ∃ d rest, i.text = letter d :: rest := by
    have hdigits := i.length_eq
    cases hd : i.digits with
    | nil => simp [hd] at hdigits
    | cons d ds => exact ⟨d, _, by rw [text, hd]; rfl⟩
  obtain ⟨d, rest, htext⟩ := hhead
  have hbrace : unbrace? i.text = none := by
    rw [htext, unbrace?.eq_def]
    split
    · next h => exact absurd (List.cons.inj h).1 (letter_not_mark d).2.1
    · rfl
  have hurn : afterUrn? i.text = none := by
    have hne : ('u' == letter d) = false := beq_eq_false_iff_ne.mpr (letter_not_mark d).2.2.symm
    have hurn : Text.ofString "urn:uuid:" = 'u' :: ['r', 'n', ':', 'u', 'u', 'i', 'd', ':'] := rfl
    simp [afterUrn?, htext, hurn, List.isPrefixOf, hne]
  rw [ofText?, if_neg hlength, hbrace, hurn]
  show (ungroup? i.text).bind ofLetters? = some i
  rw [ungroup?_text, Option.bind_some, ofLetters?_letters]

/-- Different identifiers are written differently. -/
theorem text_injective {i j : Ident} (h : i.text = j.text) : i = j := by
  have hread := ofText?_text i
  rw [h, ofText?_text] at hread
  exact (Option.some.inj hread).symm

theorem length_text (i : Ident) : i.text.length = 36 := by
  have := i.length_letters
  simp only [letters] at this
  simp [text, this]

theorem mem_text {i : Ident} {c : Char} (h : c ∈ i.text) : c = '-' ∨ ∃ d, letter d = c := by
  have hletter : c ∈ i.digits.map letter → ∃ d, letter d = c := fun hc => by
    obtain ⟨d, _, hd⟩ := List.mem_map.mp hc
    exact ⟨d, hd⟩
  have hgroup : ∀ {m n}, c ∈ ((i.digits.map letter).drop m).take n → c ∈ i.digits.map letter :=
    fun h => List.mem_of_mem_drop (List.mem_of_mem_take h)
  simp only [text, List.mem_append, List.mem_cons] at h
  rcases h with (((h | h | h) | h | h) | h | h) | h | h
  · exact .inr (hletter (List.mem_of_mem_take h))
  · exact .inl h
  · exact .inr (hletter (hgroup h))
  · exact .inl h
  · exact .inr (hletter (hgroup h))
  · exact .inl h
  · exact .inr (hletter (hgroup h))
  · exact .inl h
  · exact .inr (hletter (List.mem_of_mem_drop h))

end Ninefold.Ident
