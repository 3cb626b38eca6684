import Mathlib
import Ninefold.Proofs.Disk.Folder
import Ninefold.Proofs.Memory
import Ninefold.Proofs.Record

/-!
# The documents in a folder

A folder holds the documents of a catalog in memory if its index names their
records and every text lies in the file of its identifier. What the store looks
up in such a folder is what the catalog has; what it saves and deletes takes a
folder of one catalog to a folder of the next.
-/

namespace Ninefold

/-- A document as a store gives it back. -/
def Stored.asWritten (doc : Stored) : Stored := ⟨doc.record.asWritten, doc.raw⟩

theorem Stored.asWritten_of_addressable {doc : Stored} (h : doc.record.coordinate.Addressable) :
    doc.asWritten = doc := by
  rw [asWritten, Record.asWritten_of_addressable h]

namespace Memory

/-- The records of a catalog as an index of a store gives them back. -/
def index (m : Memory) : Index := Table.map m fun doc => doc.record.asWritten

/-- A catalog that a store can keep: every document lies under its own label,
was changed at times that clocks show, and has an identifier of its own. -/
structure Filed (m : Memory) : Prop where
  label : ∀ {label doc}, m.fetch? label = some doc → doc.record.label = label
  kept : ∀ {label doc}, m.fetch? label = some doc → doc.record.Kept
  apart : ∀ {label label' doc doc'}, m.fetch? label = some doc → m.fetch? label' = some doc' →
    doc.record.id = doc'.record.id → label = label'

theorem get?_index (m : Memory) (label : String) :
    m.index.get? label = (m.fetch? label).map fun doc => doc.record.asWritten :=
  Table.get?_map m _ label

theorem values_index (m : Memory) : m.index.values = m.list.map Record.asWritten := by
  rw [index, Table.values_map, list, List.map_map]
  rfl

/-- Records listed by the labels they are kept under are listed by their own. -/
theorem Filed.pairwise_values {m : Memory} (h : m.Filed) :
    m.index.values.Pairwise fun a b => a.label < b.label := by
  have hlabel : ∀ e ∈ m.index.entries, e.2.label = e.1 := by
    intro e he
    have hget : m.index.get? e.1 = some e.2 := Table.get?_eq_some_iff.mpr he
    rw [get?_index, Option.map_eq_some_iff] at hget
    obtain ⟨doc, hdoc, hrecord⟩ := hget
    rw [← hrecord, Record.label_asWritten, h.label hdoc]
  refine List.pairwise_map.mpr (m.index.sorted.imp_of_mem fun ha hb hab => ?_)
  rw [hlabel _ ha, hlabel _ hb]
  exact hab

end Memory

namespace Disk

/-! ## What is asked for -/

/-- The paths that a store looks at. -/
def Looked (root path : String) : Prop := path = indexPath root ∨ ∃ id, path = textPath root id

theorem asksOnly_readText {P : Request → Prop} {path : String} (h : P (.read path)) :
    (Act.readText path).AsksOnly P :=
  Act.asksOnly_file ⟨h, fun _ => trivial⟩

/-- What is worked out from a file, if it is there, takes a look at its path
alone. -/
theorem asksOnly_look {α : Type} {path : String} {f : Text → Act α} {b : Act α}
    (hf : ∀ t, (f t).AsksOnly (Request.Looks (· = path)))
    (hb : b.AsksOnly (Request.Looks (· = path))) :
    (Act.send (.isThere path) >>= fun there =>
      if there = true then Act.readText path >>= f else b).AsksOnly
        (Request.Looks (· = path)) := by
  have hthere : Request.Looks (· = path) (.isThere path) := rfl
  have hread : Request.Looks (· = path) (.read path) := rfl
  refine (Act.asksOnly_send hthere).bind fun there => ?_
  cases there with
  | false => exact hb
  | true => exact (asksOnly_readText hread).bind hf

theorem asksOnly_loadIndex (root : String) :
    (loadIndex root).AsksOnly (Request.Looks (· = indexPath root)) :=
  asksOnly_look (fun _ => Act.asksOnly_reading (fun _ => trivial) _) (Act.asksOnly_pure _)

theorem asksOnly_fetch? (root label : String) :
    (fetch? root label).AsksOnly (Request.Looks (Looked root)) := by
  have hindex : (loadIndex root).AsksOnly (Request.Looks (Looked root)) :=
    (asksOnly_loadIndex root).mono fun _ => Request.Looks.mono fun _ => Or.inl
  refine hindex.bind fun index => ?_
  split
  · exact Act.asksOnly_pure _
  · next r _ =>
    refine (Act.asksOnly_send (.inr ⟨r.id, rfl⟩)).bind fun b => ?_
    cases b with
    | false => exact Act.asksOnly_pure _
    | true => exact (asksOnly_readText (.inr ⟨r.id, rfl⟩)).bind fun t => Act.asksOnly_pure _

theorem quiet_loadIndex (root : String) : (loadIndex root).AsksOnly Request.Quiet :=
  (asksOnly_loadIndex root).mono fun _ => Request.Looks.quiet

theorem quiet_fetch? (root label : String) : (fetch? root label).AsksOnly Request.Quiet :=
  (asksOnly_fetch? root label).mono fun _ => Request.Looks.quiet

theorem quiet_list (root : String) : (list root).AsksOnly Request.Quiet := by
  refine (Act.asksOnly_send (r := .isThere root) trivial).bind fun b => ?_
  cases b with
  | false => exact Act.asksOnly_pure _
  | true => exact (quiet_loadIndex root).bind fun index => Act.asksOnly_pure _

/-! ## What is found -/

/-- What the requests that look find of a folder in a tree. -/
structure Site.Finds (s : Site) (t : FileTree) (f : Folder) : Prop where
  isThere : ∀ {name}, StoreName name →
    t.isThere s.cwd (Path.child s.root name) = (f name).isSome
  read : ∀ {name content}, StoreName name → f name = some content →
    t.read s.cwd (Path.child s.root name) = .ok content
  isFile : ∀ {name content}, StoreName name → f name = some content →
    t.isFile s.cwd (Path.child s.root name) = true

variable {s : Site} {t : FileTree} {f g : Folder} {index : Index} {m : Memory}

theorem Site.Has.finds (h : s.Has t f) : s.Finds t f := ⟨h.isThere,
  fun hn hf => h.read hn hf, fun hn hf => h.isFile hn hf⟩

/-- The index that a folder gives: the one its file is read as, or the empty one
if there is no file. -/
def Folder.Gives (f : Folder) (index : Index) : Prop :=
  (f indexName = none ∧ index = .empty) ∨
    ∃ text : Text, f indexName = some text.bytes ∧
      Reading.Gives (Reading.whole Index.read text) index

/-- A folder that holds the documents of a catalog. -/
structure Folder.Holds (f : Folder) (m : Memory) : Prop where
  index : f.Gives m.index
  texts : ∀ {label doc}, m.fetch? label = some doc →
    f (textName doc.record.id) = some doc.raw.bytes

end Disk

namespace Act

/-- A reading that comes to something is passed on. -/
theorem perform_reading {α : Type} {r : Reading α} {a : α} (h : r.Gives a) (w : World) :
    ∃ ns, (reading r).perform w = (.ok a, w.noted ns) := by
  obtain ⟨ns, hr⟩ := h []
  refine ⟨ns, ?_⟩
  have hnotes : r.notes = (some a, ns) := hr
  unfold reading
  rw [hnotes]
  exact perform_bind_ok (perform_notes ns w) _

theorem perform_readText {path : String} {w : World} {t : Text}
    (h : w.files.read w.cwd path = .ok t.bytes) : (readText path).perform w = (.ok t, w) := by
  rw [readText, perform_file]
  show ((decode (w.files.read w.cwd path)).mapError _, w) = _
  rw [h, decode_bytes]
  rfl

/-- What is worked out from a file that is there is worked out from its text. -/
theorem perform_look {α : Type} {path : String} {w : World} {t : Text} {f : Text → Act α}
    {b : Act α} (h : w.files.read w.cwd path = .ok t.bytes) :
    (send (.isThere path) >>= fun there =>
      if there = true then readText path >>= f else b).perform w = (f t).perform w := by
  have hlook : (send (.isThere path)).perform w = (.ok true, w) := by
    rw [perform_send]
    show (Except.ok (w.files.isThere w.cwd path), w) = _
    rw [FileTree.isThere_of_read h]
  rw [perform_bind_ok hlook, if_pos rfl, perform_bind_ok (perform_readText h)]

end Act

namespace Disk

variable {s : Site} {f g : Folder} {index : Index} {m : Memory} {w : World}

section Finds

variable (hcwd : w.cwd = s.cwd) (hw : s.Finds w.files f)

include hcwd hw

theorem perform_loadIndex (hf : f.Gives index) :
    ((loadIndex s.root).perform w).1 = .ok index := by
  rcases hf with ⟨hnone, rfl⟩ | ⟨text, hsome, hgives⟩
  · have hlook : (w.answer (.isThere (indexPath s.root))).1 = false := by
      show w.files.isThere w.cwd _ = _
      rw [hcwd, ← Option.isSome_none, ← hnone]
      exact hw.isThere storeName_indexName
    rw [loadIndex, Act.perform_bind_ok (Act.perform_send _ w), hlook]
    rfl
  · have hread : w.files.read w.cwd (indexPath s.root) = .ok text.bytes := by
      rw [hcwd]
      exact hw.read storeName_indexName hsome
    obtain ⟨ns, hns⟩ := Act.perform_reading hgives w
    rw [loadIndex, Act.perform_look hread, hns]

/-- What is fetched from a folder is the document of the catalog, as it was
written. -/
theorem perform_fetch? (hf : f.Holds m) (label : String) :
    ((fetch? s.root label).perform w).1 = .ok ((m.fetch? label).map Stored.asWritten) := by
  obtain ⟨w', hload⟩ := Act.exists_perform_eq (perform_loadIndex hcwd hw hf.index)
  have hafter : w'.files = w.files ∧ w'.cwd = w.cwd := by
    have hfiles := Act.files_perform (quiet_loadIndex s.root) w
    have hcwd := Act.cwd_perform (loadIndex s.root) w
    rw [hload] at hfiles hcwd
    exact ⟨hfiles, hcwd⟩
  rw [fetch?, Act.perform_bind_ok hload]
  have hget := m.get?_index label
  cases hm : m.fetch? label with
  | none =>
    rw [hm] at hget
    simp only [hget, Option.map_none]
    rfl
  | some doc =>
    have htext := hf.texts hm
    have hlook : (w'.answer (.isThere (textPath s.root doc.record.id))).1 = true := by
      show w'.files.isThere w'.cwd _ = _
      rw [hafter.1, hafter.2, hcwd, textPath,
        hw.isThere (storeName_textName _), htext]
      rfl
    have hread : w'.files.read w'.cwd (textPath s.root doc.record.id) = .ok doc.raw.bytes := by
      rw [hafter.1, hafter.2, hcwd]
      exact hw.read (storeName_textName _) htext
    rw [hm] at hget
    simp only [hget, Option.map_some]
    rw [Act.perform_bind_ok (Act.perform_send _ w')]
    have hworld : (w'.answer (.isThere (textPath s.root doc.record.id))).2 = w' := rfl
    rw [Record.id_asWritten, hlook, if_pos rfl, hworld,
      Act.perform_bind_ok (Act.perform_readText hread),
      Act.perform_pure]
    rfl

/-- What is listed from a folder are the records of the catalog, as they were
written. -/
theorem perform_list (hf : f.Holds m) (hm : m.Filed)
    (hroot : w.files.isThere w.cwd s.root = true ∨ m = .empty) :
    ((list s.root).perform w).1 = .ok (m.list.map Record.asWritten) := by
  have hsorted : m.index.values.mergeSort (fun a b => decide (¬ b.label < a.label)) =
      m.list.map Record.asWritten := by
    rw [List.mergeSort_of_pairwise, Memory.values_index]
    exact hm.pairwise_values.imp fun hab => decide_eq_true (KeyOrder.not_lt_of_lt hab)
  rw [list, Act.perform_bind_ok (Act.perform_send _ w)]
  cases hthere : w.files.isThere w.cwd s.root with
  | true =>
    have hlook : (w.answer (.isThere s.root)).1 = true := hthere
    have hworld : (w.answer (.isThere s.root)).2 = w := rfl
    obtain ⟨w', hload⟩ := Act.exists_perform_eq (perform_loadIndex hcwd hw hf.index)
    rw [hlook, if_pos rfl, hworld, Act.perform_bind_ok hload, Act.perform_pure, hsorted]
  | false =>
    have hlook : (w.answer (.isThere s.root)).1 = false := hthere
    have hempty : m = .empty := hroot.resolve_left (by rw [hthere]; decide)
    rw [hlook, if_neg (by decide), Act.perform_pure, hempty]
    rfl

end Finds

end Disk

end Ninefold
