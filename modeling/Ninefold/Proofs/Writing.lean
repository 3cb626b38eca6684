import Ninefold.Proofs.Canonical

/-!
# Writing into a document

An edit weaves the cells of a document with one of them changed, so the cells
of the document after it are known: writing a text that may be written, and
taking one out, change the cell at their coordinate and no other.
-/

namespace Ninefold

theorem Delimiters.firstReserved?_append (d : Delimiters) (t u : Text) :
    d.firstReserved? (t ++ u) = (d.firstReserved? t).or (d.firstReserved? u) :=
  List.find?_append

theorem Delimiters.firstReserved?_append_eq_none_iff {d : Delimiters} {t u : Text} :
    d.firstReserved? (t ++ u) = none ↔ d.firstReserved? t = none ∧ d.firstReserved? u = none := by
  rw [firstReserved?_append, Option.or_eq_none_iff]

namespace Cells

variable {d : Delimiters} {cells : Cells} {c : Coordinate} {t : Text}

theorem get?_write (cells : Cells) (c c' : Coordinate) (t : Text) :
    (cells.write c t).get? c' =
      if c' = c then if t.isEmpty then none else some t else cells.get? c' := by
  unfold write
  by_cases ht : t.isEmpty
  · rw [if_pos ht, if_pos ht, Table.get?_erase]
  · rw [if_neg ht, if_neg ht, Table.get?_put]

theorem get?_write_eq_some {c' : Coordinate} {u : Text}
    (h : (cells.write c t).get? c' = some u) : (u = t ∧ t ≠ []) ∨ cells.get? c' = some u := by
  rw [get?_write] at h
  by_cases hc : c' = c
  · rw [if_pos hc] at h
    cases t with
    | nil => simp at h
    | cons ch t => exact .inl ⟨by simpa [eq_comm] using h, by simp⟩
  · rw [if_neg hc] at h
    exact .inr h

theorem Plain.write (h : cells.Plain d) (ht : d.firstReserved? t = none) :
    (cells.write c t).Plain d := by
  intro c' u hu
  rcases get?_write_eq_some hu with ⟨rfl, _⟩ | hu
  · exact ht
  · exact h c' u hu

theorem Full.write (h : cells.Full) : (cells.write c t).Full := by
  intro c' u hu
  rcases get?_write_eq_some hu with ⟨rfl, hne⟩ | hu
  · exact hne
  · exact h c' u hu

end Cells

namespace Document

variable {doc : Document} {c : Coordinate} {t : Text}

/-- The text at a coordinate, as the cells have it, holds no delimiter. -/
theorem firstReserved?_cell (doc : Document) (c : Coordinate) :
    doc.delimiters.firstReserved? ((doc.cells.get? c).getD []) = none := by
  cases h : doc.cells.get? c with
  | none => rfl
  | some t => exact doc.plain_cells c t h

/-- It stays so with a text behind it that holds none. -/
theorem firstReserved?_cell_append (doc : Document) (c : Coordinate)
    (h : doc.delimiters.firstReserved? t = none) :
    doc.delimiters.firstReserved? ((doc.cells.get? c).getD [] ++ t) = none :=
  Delimiters.firstReserved?_append_eq_none_iff.mpr ⟨firstReserved?_cell doc c, h⟩

/-! ## Writing -/

/-- The document with a text written at a coordinate. -/
def write (doc : Document) (c : Coordinate) (t : Text) : Document :=
  doc.ofCells (doc.cells.write c t)

theorem cells_write (h : doc.delimiters.firstReserved? t = none) :
    (doc.write c t).cells = doc.cells.write c t :=
  cells_ofCells (doc.plain_cells.write h) doc.full_cells.write

theorem ascending_write (h : doc.delimiters.firstReserved? t = none) :
    (doc.write c t).segments.Ascending :=
  ascending_ofCells (doc.plain_cells.write h)

theorem replace_eq (h : doc.delimiters.firstReserved? t = none) :
    doc.replace c t = .ok (doc.write c t) := by
  rw [replace, h]
  rfl

theorem replace_eq_error {ch : Char} (h : doc.delimiters.firstReserved? t = some ch) :
    doc.replace c t = .error ch := by
  rw [replace, h]

/-- A text is put after the one that the cells have. The document itself may
hold no delimiter in the way of that, since what it holds was cut out. -/
theorem append_eq (hasc : doc.segments.Ascending) (h : doc.delimiters.firstReserved? t = none) :
    doc.append c t = .ok (doc.write c ((doc.cells.get? c).getD [] ++ t)) := by
  rw [append, h]
  show doc.replace c ((doc.select c).getD [] ++ t) = _
  rw [getD_select hasc, replace_eq (firstReserved?_cell_append doc c h)]

theorem append_eq_error {ch : Char} (h : doc.delimiters.firstReserved? t = some ch) :
    doc.append c t = .error ch := by
  rw [append, h]

theorem remove_eq (doc : Document) (c : Coordinate) : doc.remove c = doc.write c [] := rfl

end Document

end Ninefold
