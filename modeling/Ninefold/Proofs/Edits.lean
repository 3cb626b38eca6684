import Ninefold.Proofs.Writing

/-!
# The laws of edits

A document takes texts as a table takes entries: of two texts written at one
coordinate the later counts, texts written at two coordinates can change places,
and to write what is there already is to normalize. Since a document is woven
from its cells alone, these are equations of whole documents and not of what is
selected from them. Replacing and appending add one check, which looks at the
text that comes in and at no other.
-/

namespace Ninefold

/-! ## Reserved characters -/

namespace Delimiters

variable {d : Delimiters} {t : Text} {ch : Char}

theorem firstReserved?_eq_some_iff :
    d.firstReserved? t = some ch ↔
      ∃ before after, t = before ++ ch :: after ∧ d.reserves ch ∧
        ∀ x ∈ before, ¬ d.reserves x := by
  rw [firstReserved?, List.find?_eq_some_iff_append]
  constructor
  · rintro ⟨hch, before, after, ht, hbefore⟩
    exact ⟨before, after, ht, hch, fun x hx => by simpa using hbefore x hx⟩
  · rintro ⟨before, after, ht, hch, hbefore⟩
    exact ⟨hch, before, after, ht, fun x hx => by simpa using hbefore x hx⟩

theorem exists_firstReserved?_iff :
    (∃ ch, d.firstReserved? t = some ch) ↔ ∃ ch ∈ t, d.reserves ch := by
  rw [← Option.isSome_iff_exists, firstReserved?, List.find?_isSome]

theorem firstReserved?_eq_none_of_free (h : ∀ ch ∈ t, ¬ d.reserves ch) :
    d.firstReserved? t = none := List.find?_eq_none.mpr h

end Delimiters

/-! ## Writing into cells -/

namespace Cells

variable {c c' : Coordinate}

@[simp] theorem getD_get?_write (cells : Cells) (c : Coordinate) (t : Text) :
    ((cells.write c t).get? c).getD [] = t := by
  rw [get?_write, if_pos rfl]
  cases t <;> rfl

theorem write_write (cells : Cells) (c : Coordinate) (t u : Text) :
    (cells.write c t).write c u = cells.write c u := by
  apply Table.ext_get?
  intro k
  simp only [get?_write]
  by_cases hk : k = c
  · simp [hk]
  · simp [hk]

theorem write_comm (cells : Cells) (h : c ≠ c') (t u : Text) :
    (cells.write c t).write c' u = (cells.write c' u).write c t := by
  apply Table.ext_get?
  intro k
  simp only [get?_write]
  by_cases hk : k = c
  · simp [hk, h]
  · simp [hk]

/-- To write what is there changes nothing, where no cell is empty. -/
theorem Full.write_self {cells : Cells} (h : cells.Full) (c : Coordinate) :
    cells.write c ((cells.get? c).getD []) = cells := by
  apply Table.ext_get?
  intro k
  rw [get?_write]
  by_cases hk : k = c
  · subst hk
    cases hget : cells.get? k with
    | none => simp
    | some t => simp [h k t hget]
  · rw [if_neg hk]

end Cells

namespace Document

variable {doc after : Document} {c c' : Coordinate} {t u : Text} {ch : Char}

/-! ## Writing into a document -/

@[simp] theorem delimiters_write (doc : Document) (c : Coordinate) (t : Text) :
    (doc.write c t).delimiters = doc.delimiters := delimiters_ofCells doc _

theorem ofCells_ofCells (doc : Document) (cells cells' : Cells) :
    (doc.ofCells cells).ofCells cells' = doc.ofCells cells' := by
  rw [ofCells, delimiters_ofCells, ofCells]

/-- A second text goes into the cells that the first has left. -/
theorem write_eq_ofCells (h : doc.delimiters.firstReserved? t = none) :
    (doc.write c t).write c' u = doc.ofCells ((doc.cells.write c t).write c' u) := by
  rw [write, cells_write h, write, ofCells_ofCells]

theorem write_write (h : doc.delimiters.firstReserved? t = none) :
    (doc.write c t).write c u = doc.write c u := by
  rw [write_eq_ofCells h, Cells.write_write, write]

theorem write_comm (hne : c ≠ c') (h : doc.delimiters.firstReserved? t = none)
    (h' : doc.delimiters.firstReserved? u = none) :
    (doc.write c t).write c' u = (doc.write c' u).write c t := by
  rw [write_eq_ofCells h, write_eq_ofCells h', Cells.write_comm _ hne]

theorem write_self (doc : Document) (c : Coordinate) :
    doc.write c ((doc.cells.get? c).getD []) = doc.normalize := by
  rw [write, doc.full_cells.write_self, normalize]

/-! ## Replacing -/

theorem replace_eq_error_iff :
    doc.replace c t = .error ch ↔ doc.delimiters.firstReserved? t = some ch := by
  cases h : doc.delimiters.firstReserved? t with
  | none => simp [replace_eq h]
  | some first => simp [replace_eq_error h]

theorem replace_eq_ok_iff :
    doc.replace c t = .ok after ↔
      doc.delimiters.firstReserved? t = none ∧ after = doc.write c t := by
  cases h : doc.delimiters.firstReserved? t with
  | none => simp [replace_eq h, eq_comm]
  | some first => simp [replace_eq_error h]

/-- Where one replacement follows another, both texts are checked against the
same delimiters, and both are written. -/
theorem replace_replace_eq_ok_iff :
    (doc.replace c t >>= fun next => next.replace c' u) = .ok after ↔
      doc.delimiters.firstReserved? t = none ∧ doc.delimiters.firstReserved? u = none ∧
        after = (doc.write c t).write c' u := by
  cases h : doc.delimiters.firstReserved? t with
  | none =>
    rw [replace_eq h]
    show (doc.write c t).replace c' u = .ok after ↔ _
    rw [replace_eq_ok_iff, delimiters_write]
    simp
  | some first =>
    rw [replace_eq_error h]
    show Except.error first = .ok after ↔ _
    simp

/-- The later of two replacements at one coordinate counts. -/
theorem replace_write (h : doc.delimiters.firstReserved? t = none) :
    (doc.write c t).replace c u = doc.replace c u := by
  have hsame := delimiters_write doc c t
  cases hu : doc.delimiters.firstReserved? u with
  | none => rw [replace_eq hu, replace_eq (hsame.symm ▸ hu), write_write h]
  | some first => rw [replace_eq_error hu, replace_eq_error (hsame.symm ▸ hu)]

/-- Replacements at two coordinates can change places. -/
theorem replace_comm (hne : c ≠ c') :
    (doc.replace c t >>= fun next => next.replace c' u) = .ok after ↔
      (doc.replace c' u >>= fun next => next.replace c t) = .ok after := by
  -- if one text is refused, neither order comes to a document
  rw [replace_replace_eq_ok_iff, replace_replace_eq_ok_iff]
  constructor
  · rintro ⟨ht, hu, rfl⟩
    exact ⟨hu, ht, write_comm hne ht hu⟩
  · rintro ⟨hu, ht, rfl⟩
    exact ⟨ht, hu, write_comm hne.symm hu ht⟩

theorem replace_self (doc : Document) (c : Coordinate) :
    doc.replace c ((doc.cells.get? c).getD []) = .ok doc.normalize := by
  rw [replace_eq (firstReserved?_cell doc c), write_self]

/-- A replacement that goes through changes one cell. -/
theorem get?_cells_of_replace (h : doc.replace c t = .ok after) (k : Coordinate) :
    after.cells.get? k = if k = c then if t = [] then none else some t else doc.cells.get? k := by
  obtain ⟨hfree, rfl⟩ := replace_eq_ok_iff.mp h
  rw [cells_write hfree, Cells.get?_write]
  simp only [List.isEmpty_iff]

/-- **To replace is to write into the cells.** A replacement is refused exactly
if the text has a reserved character, and it reports the first. Otherwise the
cells after it are those before it with the text at its coordinate, or none
there if the text is empty, which is how a text is removed. Therefore the later
of two replacements at one coordinate counts, replacements at two coordinates
come to the same document in either order, and to put back what a cell holds is
to normalize. -/
theorem replace_writes_cell (doc : Document) (c : Coordinate) (t : Text) :
    ((∃ ch, doc.replace c t = .error ch) ↔ ∃ ch ∈ t, doc.delimiters.reserves ch) ∧
      (∀ ch, doc.replace c t = .error ch →
        ∃ before after, t = before ++ ch :: after ∧ doc.delimiters.reserves ch ∧
          ∀ x ∈ before, ¬ doc.delimiters.reserves x) ∧
      ((∀ ch ∈ t, ¬ doc.delimiters.reserves ch) →
        ∃ after, doc.replace c t = .ok after ∧ after.delimiters = doc.delimiters ∧
          (∀ k, after.cells.get? k =
            if k = c then if t = [] then none else some t else doc.cells.get? k) ∧
          ∀ u, after.replace c u = doc.replace c u) ∧
      doc.replace c [] = .ok (doc.remove c) ∧
      (∀ c' u after, c ≠ c' →
        ((doc.replace c t >>= fun next => next.replace c' u) = .ok after ↔
          (doc.replace c' u >>= fun next => next.replace c t) = .ok after)) ∧
      doc.replace c ((doc.cells.get? c).getD []) = .ok doc.normalize := by
  refine ⟨?_, ?_, ?_, ?_, fun c' u after hne => replace_comm hne, replace_self doc c⟩
  · simp only [replace_eq_error_iff, Delimiters.exists_firstReserved?_iff]
  · exact fun ch h => Delimiters.firstReserved?_eq_some_iff.mp (replace_eq_error_iff.mp h)
  · intro hfree
    have hnone := Delimiters.firstReserved?_eq_none_of_free hfree
    exact ⟨doc.write c t, replace_eq hnone, delimiters_write doc c t,
      get?_cells_of_replace (replace_eq hnone), fun u => replace_write hnone⟩
  · rw [remove_eq, replace_eq rfl]

/-- A scroll between two places without content. -/
def looseEnds : Document := ofText ['\x17', 'a', '\x18']

theorem replace_writes_cell_looseEnds :
    (∀ ch ∈ ['x'], ¬ looseEnds.delimiters.reserves ch) ∧
      looseEnds.replace .origin ['x'] = .ok (ofText ['x', '\x17', 'a']) ∧
      (ofText ['x', '\x17', 'a']).replace .origin [] = looseEnds.replace .origin [] ∧
      looseEnds.replace .origin [] = .ok (looseEnds.remove .origin) ∧
      looseEnds.replace .origin [] = .ok looseEnds.normalize := by
  obtain ⟨_, _, hupdate, hremove, _, hself⟩ := replace_writes_cell looseEnds .origin ['x']
  have hfree : ∀ ch ∈ ['x'], ¬ looseEnds.delimiters.reserves ch := by
    intro ch hch
    rw [List.mem_singleton.mp hch]
    decide
  obtain ⟨after, hafter, _, _, hlater⟩ := hupdate hfree
  have hshown : looseEnds.replace .origin ['x'] = .ok (ofText ['x', '\x17', 'a']) := by decide
  have heq : after = ofText ['x', '\x17', 'a'] := Except.ok.inj (hafter.symm.trans hshown)
  exact ⟨hfree, hshown, heq ▸ hlater [], hremove, hself⟩

/-! ## Appending -/

theorem append_eq_error_iff (hasc : doc.segments.Ascending) :
    doc.append c t = .error ch ↔ doc.delimiters.firstReserved? t = some ch := by
  cases h : doc.delimiters.firstReserved? t with
  | none => simp [append_eq hasc h]
  | some first => simp [append_eq_error h]

/-- Two texts put after a cell are their concatenation put after it. -/
theorem append_append (hasc : doc.segments.Ascending) :
    (doc.append c t >>= fun next => next.append c u) = doc.append c (t ++ u) := by
  have hjoin := Delimiters.firstReserved?_append doc.delimiters t u
  cases ht : doc.delimiters.firstReserved? t with
  | some first =>
    -- the first text is refused, alone and in front of the second
    rw [ht, Option.some_or] at hjoin
    rw [append_eq_error ht, append_eq_error hjoin]
    rfl
  | none =>
    -- the second text meets a woven document, whatever `doc` was
    rw [ht, Option.none_or] at hjoin
    let next := doc.write c ((doc.cells.get? c).getD [] ++ t)
    have hcell := firstReserved?_cell_append doc c ht
    have hnext : next.segments.Ascending := ascending_write hcell
    have hsame : next.delimiters = doc.delimiters := delimiters_write doc c _
    rw [append_eq hasc ht]
    show next.append c u = doc.append c (t ++ u)
    cases hu : doc.delimiters.firstReserved? u with
    | some first =>
      rw [append_eq_error (hsame.symm ▸ hu), append_eq_error (hjoin.trans hu)]
    | none =>
      rw [append_eq hnext (hsame.symm ▸ hu), append_eq hasc (hjoin.trans hu), write_write hcell,
        cells_write hcell, Cells.getD_get?_write, List.append_assoc]

/-- An append that goes through puts its text behind the one at its coordinate,
and leaves the others. -/
theorem exists_append_eq (hasc : doc.segments.Ascending)
    (h : doc.delimiters.firstReserved? t = none) (c : Coordinate) :
    ∃ after, doc.append c t = .ok after ∧
      (after.select c).getD [] = (doc.select c).getD [] ++ t ∧
      ∀ k, k ≠ c → (after.select k).getD [] = (doc.select k).getD [] := by
  have hcell := firstReserved?_cell_append doc c h
  have hafter : ∀ k, ((doc.write c ((doc.cells.get? c).getD [] ++ t)).select k).getD [] =
      ((doc.cells.write c ((doc.cells.get? c).getD [] ++ t)).get? k).getD [] := by
    intro k
    rw [getD_select (ascending_write hcell), cells_write hcell]
  refine ⟨_, append_eq hasc h, ?_, fun k hk => ?_⟩
  · rw [hafter, Cells.getD_get?_write, getD_select hasc]
  · rw [hafter, Cells.get?_write, if_neg hk, getD_select hasc]

theorem append_nil (hasc : doc.segments.Ascending) (c : Coordinate) :
    doc.append c [] = .ok doc.normalize := by
  rw [append_eq hasc rfl, List.append_nil, write_self]

/-- **A text can be appended in parts.** In a document whose text has fewer
characters than an axis has positions, to append one text and then another is
to append both as one, in the document that results as well as in the character
that is refused. A text is refused exactly if it has a reserved character
itself, whatever lies at the coordinate; otherwise it comes behind the text
there, and no other text changes. To append nothing is to normalize. -/
theorem append_in_parts {doc : Document} (h : doc.raw.length < Position.limit)
    (c : Coordinate) :
    (∀ a b, (doc.append c a >>= fun next => next.append c b) = doc.append c (a ++ b)) ∧
      (∀ a, (∃ ch, doc.append c a = .error ch) ↔ ∃ ch ∈ a, doc.delimiters.reserves ch) ∧
      (∀ a, (∀ ch ∈ a, ¬ doc.delimiters.reserves ch) →
        ∃ after, doc.append c a = .ok after ∧
          (after.select c).getD [] = (doc.select c).getD [] ++ a ∧
          ∀ k, k ≠ c → (after.select k).getD [] = (doc.select k).getD []) ∧
      doc.append c [] = .ok doc.normalize := by
  have hasc : doc.segments.Ascending := Segments.ascending_of_length h
  refine ⟨fun a b => append_append hasc, fun a => ?_, fun a ha => ?_, append_nil hasc c⟩
  · simp only [append_eq_error_iff hasc, Delimiters.exists_firstReserved?_iff]
  · exact exists_append_eq hasc (Delimiters.firstReserved?_eq_none_of_free ha) c

theorem append_in_parts_looseEnds :
    looseEnds.raw.length < Position.limit ∧
      (looseEnds.append .origin ['b'] >>= fun next => next.append .origin ['c']) =
        .ok (ofText ['b', 'c', '\x17', 'a']) ∧
      (looseEnds.append .origin ['b'] >>= fun next => next.append .origin ['\x19', '\x18']) =
        .error '\x19' ∧
      looseEnds.append .origin [] = .ok looseEnds.normalize := by
  have hlength : looseEnds.raw.length < Position.limit := by decide
  obtain ⟨hjoin, _, _, hnil⟩ := append_in_parts hlength .origin
  exact ⟨hlength, (hjoin ['b'] ['c']).trans (by decide), (hjoin ['b'] _).trans (by decide), hnil⟩

end Document

end Ninefold
