import Ninefold.Proofs.Writing
import Ninefold.Proofs.Ledger

/-!
# A catalog in memory as a ledger

What a catalog in memory shows is a ledger. The catalogs that edits lead to are
sound: each document has the label it is kept under, and no two of its segments
share a coordinate. Saving and deleting documents keeps a catalog sound and
changes one entry of the ledger; writing a text into a document, normalizing it
and moving about in it keep it sound, and change its sheet as they should.
-/

namespace Ninefold

/-! ## Documents and their sheets -/

/-- What a document looks like on a ledger. -/
def Stored.sheet (doc : Stored) : Sheet := ⟨doc.record.coordinate, doc.document.cells.get?⟩

/-- A document with the label it is kept under, and with segments at
coordinates of their own. -/
structure Stored.Sound (doc : Stored) (label : String) : Prop where
  label : doc.record.label = label
  ascending : doc.document.segments.Ascending

theorem Stored.sound_fresh (label : String) (now : Instant) (id : Ident) :
    (fresh label now id).Sound label :=
  ⟨rfl, Segments.ascending_of_length (t := []) (by decide)⟩

/-! ## Changes to one document -/

theorem Document.ofText_raw {doc : Document} (h : doc.delimiters = .standard) :
    ofText doc.raw = doc := by
  cases doc
  cases h
  rfl

namespace Stored

variable {doc : Stored} {label : String} {c : Coordinate} {t : Text} {now : Instant}

theorem document_withText : (doc.withText t now).document = .ofText t := rfl

theorem delimiters_document : doc.document.delimiters = .standard := rfl

theorem document_withText_write :
    (doc.withText (doc.document.write c t).raw now).document = doc.document.write c t := by
  rw [document_withText, Document.ofText_raw]
  rw [Document.write, Document.delimiters_ofCells, delimiters_document]

theorem sheet_withText_write (h : Delimiters.standard.firstReserved? t = none) :
    (doc.withText (doc.document.write c t).raw now).sheet = doc.sheet.write c t := by
  have htexts : (doc.document.write c t).cells.get? = (doc.sheet.write c t).texts := by
    funext c'
    rw [Document.cells_write h, Cells.get?_write]
    rfl
  rw [sheet, document_withText_write, htexts]
  rfl

theorem sheet_moveTo : (doc.moveTo c).sheet = doc.sheet.moveTo c := rfl

theorem Sound.withText_write (hdoc : doc.Sound label)
    (h : Delimiters.standard.firstReserved? t = none) :
    (doc.withText (doc.document.write c t).raw now).Sound label := by
  refine ⟨hdoc.label, ?_⟩
  rw [document_withText_write]
  exact Document.ascending_write h

theorem document_withText_normalize :
    (doc.withText doc.document.normalize.raw now).document = doc.document.normalize := by
  rw [document_withText, Document.ofText_raw]
  rw [Document.delimiters_normalize, delimiters_document]

theorem sheet_withText_normalize (doc : Stored) (now : Instant) :
    (doc.withText doc.document.normalize.raw now).sheet = doc.sheet := by
  rw [sheet, document_withText_normalize, Document.cells_normalize]
  rfl

theorem Sound.withText_normalize (hdoc : doc.Sound label) (now : Instant) :
    (doc.withText doc.document.normalize.raw now).Sound label := by
  refine ⟨hdoc.label, ?_⟩
  rw [document_withText_normalize]
  exact Document.ascending_ofCells doc.document.plain_cells

theorem Sound.withText (hdoc : doc.Sound label) (h : t.length < Position.limit) :
    (doc.withText t now).Sound label :=
  ⟨hdoc.label, Segments.ascending_of_length h⟩

theorem Sound.moveTo (hdoc : doc.Sound label) : (doc.moveTo c).Sound label :=
  ⟨hdoc.label, hdoc.ascending⟩

end Stored

/-! ## Catalogs and their ledgers -/

namespace Memory

/-- The ledger of a catalog. -/
def ledger (m : Memory) : Ledger := fun label => (m.fetch? label).map Stored.sheet

/-- Every document of the catalog is sound. -/
def Sound (m : Memory) : Prop := ∀ label doc, m.fetch? label = some doc → doc.Sound label

theorem fetch?_save (m : Memory) (doc : Stored) (label : String) :
    (m.save doc).fetch? label = if label = doc.record.label then some doc else m.fetch? label :=
  Table.get?_put m doc.record.label label doc

theorem fetch?_erase (m : Memory) (label label' : String) :
    fetch? (m.erase label) label' = if label' = label then none else m.fetch? label' :=
  Table.get?_erase m label label'

theorem ledger_save (m : Memory) (doc : Stored) :
    (m.save doc).ledger = m.ledger.set doc.record.label doc.sheet := by
  funext label
  unfold ledger Ledger.set
  rw [fetch?_save]
  split <;> rfl

theorem ledger_erase (m : Memory) (label : String) :
    ledger (m.erase label) = m.ledger.set label none := by
  funext label'
  unfold ledger Ledger.set
  rw [fetch?_erase]
  split <;> rfl

theorem ledger_eq_some {m : Memory} {label : String} {doc : Stored}
    (h : m.fetch? label = some doc) : m.ledger label = some doc.sheet := by
  rw [ledger, h]
  rfl

theorem ledger_eq_none {m : Memory} {label : String} (h : m.fetch? label = none) :
    m.ledger label = none := by
  rw [ledger, h]
  rfl

theorem delete_of_fetch?_some {m : Memory} {label : String} {doc : Stored}
    (h : m.fetch? label = some doc) : m.delete label = .ok (m.erase label) := by
  have hget : Table.get? m label = some doc := h
  rw [delete, Table.contains, hget]
  rfl

theorem delete_of_fetch?_none {m : Memory} {label : String} (h : m.fetch? label = none) :
    m.delete label = .error (.unknownLabel label) := by
  have hget : Table.get? m label = none := h
  rw [delete, Table.contains, hget]
  rfl

theorem sound_empty : Sound .empty := by
  intro label doc h
  cases h

section Sound

variable {m : Memory} (hm : m.Sound)

include hm

theorem Sound.save {doc : Stored} (h : doc.Sound doc.record.label) : (m.save doc).Sound := by
  intro label old hold
  rw [fetch?_save] at hold
  by_cases hl : label = doc.record.label
  · rw [if_pos hl] at hold
    cases hold
    exact hl ▸ h
  · rw [if_neg hl] at hold
    exact hm label old hold

theorem Sound.erase (label : String) : Sound (m.erase label) := by
  intro label' old hold
  rw [fetch?_erase] at hold
  by_cases hl : label' = label
  · rw [if_pos hl] at hold
    cases hold
  · rw [if_neg hl] at hold
    exact hm label' old hold

end Sound

end Memory

end Ninefold
