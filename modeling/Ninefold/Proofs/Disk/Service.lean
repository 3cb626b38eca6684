import Mathlib
import Ninefold.Proofs.Disk.Changes

/-!
# A store in service

A store starts in a directory that is empty, or that is not there and will be
empty when it is made. From then on it stands for a catalog: it answers from the
folder that holds the documents of the catalog, and each change leads it to
stand for the next catalog. The directory is made when the first document is
saved; until then the store answers as from an empty folder.
-/

namespace Ninefold

namespace FileTree

variable {t : FileTree} {cwd : Place} {root : String}

/-- In a directory that lists nothing there is nothing. -/
theorem place_of_list_nil (h : t.list cwd root = .ok []) :
    ∃ p, t.locate cwd root = .ok p ∧ t.hasDirectory p = true ∧
      ∀ name, t.at? (p ++ [name]) = none := by
  unfold list at h
  cases hfind : t.find cwd root with
  | error e =>
    rw [hfind] at h
    cases h
  | ok found =>
    obtain ⟨p, e⟩ := found
    rw [hfind] at h
    cases e with
    | file content => cases h
    | directory =>
      obtain ⟨hloc, hdir, -⟩ := find_eq_ok_iff.mp hfind
      refine ⟨p, hloc, hasDirectory_iff.mpr hdir, fun name => ?_⟩
      have hnames : t.entries.keys.filterMap
          (fun q => if q.dropLast = p then q.getLast? else none) = [] := Except.ok.inj h
      rw [List.filterMap_eq_nil_iff] at hnames
      cases hchild : t.at? (p ++ [name]) with
      | none => rfl
      | some e =>
        have hlisted := hnames _ (mem_keys_of_at? (by simp) hchild)
        rw [if_pos List.dropLast_concat, List.getLast?_concat] at hlisted
        cases hlisted

end FileTree

/-- A world without files. -/
def World.bare : World := ⟨.empty, [], default, 0, .empty, [], []⟩

namespace Disk

variable {s : Site} {t : FileTree} {f : Folder} {m : Memory} {w : World} {root : String}

/-! ## Where a store starts -/

/-- A directory in which a store can start: it can be made, if it is not there,
and then holds nothing; and its path leaves room for the names of files. -/
structure Vacant (root : String) (t : FileTree) (cwd : Place) : Prop where
  made : (t.makeDirectories cwd root).1 = .ok ()
  empty : (t.makeDirectories cwd root).2.list cwd root = .ok []
  fits : (Path.lead root).utf8ByteSize + 90 ≤ FileTree.pathLimit

/-- A site whose directory is not there; when it is made it is empty. -/
structure Site.Unmade (s : Site) (t : FileTree) : Prop where
  missing : t.isThere s.cwd s.root = false
  made : (t.makeDirectories s.cwd s.root).1 = .ok ()
  empty : s.Has (t.makeDirectories s.cwd s.root).2 .empty

/-- A site that has a folder, or answers as if it had an empty one. -/
def Site.Serves (s : Site) (t : FileTree) (f : Folder) : Prop :=
  s.Has t f ∨ s.Unmade t ∧ f = .empty

theorem Site.Unmade.finds (h : s.Unmade t) : s.Finds t .empty where
  isThere {name} hn := by
    cases hchild : t.isThere s.cwd (Path.child s.root name) with
    | false => rfl
    | true =>
      have hroot := FileTree.isThere_of_isThere_child hn.plain h.empty.named hchild
      rw [h.missing] at hroot
      cases hroot
  read _ hf := by cases hf
  isFile _ hf := by cases hf

theorem Site.Serves.finds (h : s.Serves t f) : s.Finds t f := by
  rcases h with h | ⟨h, rfl⟩
  · exact h.finds
  · exact h.finds

/-- A vacant directory is empty when it has been made. -/
theorem Vacant.has {cwd : Place} (h : Vacant root t cwd) :
    ∃ p, Site.Has ⟨root, cwd, p⟩ (t.makeDirectories cwd root).2 .empty := by
  obtain ⟨p, hloc, hdir, hnone⟩ := FileTree.place_of_list_nil h.empty
  obtain ⟨hnul, hroot, -, hleads⟩ := FileTree.locate_eq_ok_iff.mp hloc
  exact ⟨p, hroot, ⟨hnul, h.fits, hleads, hdir⟩,
    fun _ _ => FileTree.hasDirectory_of_none (hnone _), fun _ => hnone _⟩

/-- A store can start where its directory is vacant. -/
theorem Vacant.serves {cwd : Place} (h : Vacant root t cwd) :
    ∃ p, Site.Serves ⟨root, cwd, p⟩ t .empty := by
  obtain ⟨p, hhas⟩ := h.has
  refine ⟨p, ?_⟩
  cases hthere : t.isThere cwd root with
  | true =>
    rw [FileTree.makeDirectories_of_isThere hthere] at hhas
    exact .inl hhas
  | false => exact .inr ⟨⟨hthere, h.made, hhas⟩, rfl⟩

/-- A folder without files holds the catalog without documents. -/
theorem holds_empty : Folder.empty.Holds .empty where
  index := .inl ⟨rfl, rfl⟩
  texts h := by cases h

theorem tidy_empty : Folder.empty.Tidy .empty := fun _ h => by cases h

theorem Folder.Holds.eq_empty (h : Folder.empty.Holds m) : m = .empty := by
  refine Table.ext_get? fun label => ?_
  cases hdoc : Table.get? m label with
  | none => rfl
  | some doc =>
    have hfetch : m.fetch? label = some doc := hdoc
    cases h.texts hfetch

/-! ## What a store stands for -/

/-- A store that stands for a catalog: it serves a folder of its documents. -/
structure Stands (s : Site) (w : World) (m : Memory) : Prop where
  cwd : w.cwd = s.cwd
  filed : m.Filed
  folder : ∃ f, s.Serves w.files f ∧ f.Holds m

/-- No text lies in the directory of a store but those of documents. -/
def Site.NothingOver (s : Site) (t : FileTree) (m : Memory) : Prop :=
  ∀ id, t.isThere s.cwd (textPath s.root id) = true →
    ∃ label doc, m.fetch? label = some doc ∧ doc.record.id = id

theorem Site.Finds.nothingOver_iff (h : s.Finds t f) : s.NothingOver t m ↔ f.Tidy m := by
  unfold Site.NothingOver Folder.Tidy textPath
  simp only [h.isThere (storeName_textName _)]

theorem Vacant.stands (h : Vacant root w.files w.cwd) :
    ∃ p, Stands ⟨root, w.cwd, p⟩ w .empty ∧
      Site.NothingOver ⟨root, w.cwd, p⟩ w.files .empty := by
  obtain ⟨p, hp⟩ := h.serves
  exact ⟨p, ⟨rfl, Memory.filed_empty, .empty, hp, holds_empty⟩,
    hp.finds.nothingOver_iff.mpr tidy_empty⟩

theorem Stands.of_files (h : Stands s w m) {w' : World} (hcwd : w'.cwd = w.cwd)
    (hfiles : w'.files = w.files) : Stands s w' m :=
  ⟨hcwd.trans h.cwd, h.filed, hfiles ▸ h.folder⟩

/-- A tree that finds what a store may show while a change is under way. -/
def Passing (s : Site) (c : Change) (m : Memory) (t : FileTree) : Prop :=
  ∃ f, Way c m f ∧ s.Finds t f

/-- Once its directory is made, a site that answers as from a folder has it. -/
theorem Site.Serves.makeRoot (h : s.Serves w.files f) (hcwd : w.cwd = s.cwd) :
    ∃ w', (makeRoot s.root).perform w = (.ok (), w') ∧ w'.cwd = s.cwd ∧ s.Has w'.files f ∧
      ∀ t ∈ (makeRoot s.root).leaves w, s.Finds t f := by
  have hlook : ∀ there, w.files.isThere w.cwd s.root = there →
      (Act.send (.isThere s.root)).perform w = (.ok there, w) := fun there hthere =>
    congrArg (fun b => (Except.ok b, w)) hthere
  have hstay : ∀ t ∈ (Act.send (.isThere s.root)).leaves w, s.Finds t f := fun t ht =>
    Script.eq_of_mem_visits (Act.asksOnly_send (r := .isThere s.root) trivial) ht ▸ h.finds
  rcases h with hhas | ⟨hunmade, rfl⟩
  · have hthere := hlook true (hcwd ▸ hhas.isThere_root)
    refine ⟨w, Act.perform_bind_ok hthere _, hcwd, hhas, fun t ht => ?_⟩
    unfold Disk.makeRoot at ht
    rw [Act.leaves_bind_ok hthere, List.mem_append] at ht
    rcases ht with ht | ht
    · exact hstay t ht
    · cases ht
  · have hthere := hlook false (hcwd ▸ hunmade.missing)
    obtain ⟨files, hfiles⟩ : ∃ files, (w.files.makeDirectories s.cwd s.root).2 = files := ⟨_, rfl⟩
    have hmade : w.files.makeDirectories w.cwd s.root = (.ok (), files) := by
      rw [hcwd]
      exact Prod.ext hunmade.made hfiles
    have hhas := hfiles ▸ hunmade.empty
    refine ⟨{ w with files }, ?_, hcwd, hhas, fun t ht => ?_⟩
    · exact (Act.perform_bind_ok hthere _).trans (Act.perform_makeDirectories hmade)
    · unfold Disk.makeRoot at ht
      rw [Act.leaves_bind_ok hthere, List.mem_append] at ht
      rcases ht with ht | ht
      · exact hstay t ht
      · replace ht : t ∈ (Act.file (Script.send (.makeDirectories s.root))).leaves w := ht
        rw [Act.leaves_makeDirectories hmade, List.mem_singleton] at ht
        exact ht ▸ hhas.finds

section Stands

variable (h : Stands s w m)

include h

theorem Stands.fetch? (label : String) :
    ((fetch? s.root label).perform w).1 = .ok ((m.fetch? label).map Stored.asWritten) := by
  obtain ⟨f, hserves, hf⟩ := h.folder
  exact perform_fetch? h.cwd hserves.finds hf label

theorem Stands.list : ((Disk.list s.root).perform w).1 = .ok (m.list.map Record.asWritten) := by
  obtain ⟨f, hserves, hf⟩ := h.folder
  refine perform_list h.cwd hserves.finds hf h.filed ?_
  rcases hserves with hhas | ⟨-, rfl⟩
  · exact .inl (h.cwd ▸ hhas.isThere_root)
  · exact .inr hf.eq_empty

/-- Saving a document makes the store stand for the catalog with it, and leaves
nothing over. -/
theorem Stands.save {doc : Stored} (hkept : doc.record.Kept) (hfree : m.Free doc) :
    (∃ w', (save s.root doc).perform w = (.ok (), w') ∧ Stands s w' (m.save doc) ∧
        (s.NothingOver w.files m → s.NothingOver w'.files (m.save doc))) ∧
      ∀ t ∈ (save s.root doc).leaves w, Passing s (.save doc) m t := by
  obtain ⟨f, hserves, hf⟩ := h.folder
  obtain ⟨g, hmoves, hg, hgtidy⟩ := moves_store (s := s) hf h.filed hkept hfree
  obtain ⟨w₁, hmade, hcwd₁, hhas₁, hleaves₁⟩ := hserves.makeRoot h.cwd
  obtain ⟨w₂, hstored, hcwd₂, hhas₂, hway⟩ := hmoves w₁ hcwd₁ hhas₁
  rw [save_eq, Act.perform_bind_ok hmade, Act.leaves_bind_ok hmade]
  refine ⟨⟨w₂, hstored, ⟨hcwd₂, h.filed.save hkept hfree, g, .inl hhas₂, hg⟩, fun hover => ?_⟩, ?_⟩
  · exact hhas₂.finds.nothingOver_iff.mpr (hgtidy (hserves.finds.nothingOver_iff.mp hover))
  intro t ht
  rcases List.mem_append.mp ht with ht | ht
  · exact ⟨f, ⟨m, .inl rfl, hf⟩, hleaves₁ t ht⟩
  · obtain ⟨f', hf', ht'⟩ := hway t ht
    exact ⟨f', hf', ht'.finds⟩

/-- Deleting a document makes the store stand for the catalog without it, and
leaves nothing over. -/
theorem Stands.delete {label : String} {doc : Stored} (hdoc : m.fetch? label = some doc) :
    (∃ w', (Disk.delete s.root label).perform w = (.ok (), w') ∧
        Stands s w' (Table.erase m label) ∧
        (s.NothingOver w.files m → s.NothingOver w'.files (Table.erase m label))) ∧
      ∀ t ∈ (Disk.delete s.root label).leaves w, Passing s (.delete label) m t := by
  obtain ⟨f, hserves, hf⟩ := h.folder
  obtain ⟨g, hmoves, hg, hgtidy⟩ := moves_delete (s := s) hf h.filed hdoc
  rcases hserves with hhas | ⟨-, rfl⟩
  · obtain ⟨w', hrun, hcwd', hhas', hway⟩ := hmoves w h.cwd hhas
    refine ⟨⟨w', hrun, ⟨hcwd', h.filed.erase label, g, .inl hhas', hg⟩, fun hover => ?_⟩, ?_⟩
    · exact hhas'.finds.nothingOver_iff.mpr (hgtidy (hhas.finds.nothingOver_iff.mp hover))
    intro t ht
    obtain ⟨f', hf', ht'⟩ := hway t ht
    exact ⟨f', hf', ht'.finds⟩
  · rw [hf.eq_empty] at hdoc
    cases hdoc

/-- What no label has is not deleted. -/
theorem Stands.delete_unknown {label : String} (hnone : m.fetch? label = none) :
    (∃ w', (Disk.delete s.root label).perform w = (.error (.unknownLabel label), w') ∧
        w'.files = w.files ∧ Stands s w' m) ∧
      ∀ t ∈ (Disk.delete s.root label).leaves w, Passing s (.delete label) m t := by
  obtain ⟨f, hserves, hf⟩ := h.folder
  obtain ⟨w', hload⟩ := Act.exists_perform_eq (perform_loadIndex h.cwd hserves.finds hf.index)
  have hafter : w'.files = w.files ∧ w'.cwd = w.cwd := by
    have hfiles := Act.files_perform (quiet_loadIndex s.root) w
    have hcwd := Act.cwd_perform (loadIndex s.root) w
    rw [hload] at hfiles hcwd
    exact ⟨hfiles, hcwd⟩
  have hget : m.index.get? label = none := by
    rw [Memory.get?_index, hnone]
    rfl
  refine ⟨⟨w', ?_, hafter.1, h.of_files hafter.2 hafter.1⟩, fun t ht => ?_⟩
  · rw [Disk.delete, Act.perform_bind_ok hload]
    simp only [hget]
    rfl
  · rw [Disk.delete, Act.leaves_bind_ok hload] at ht
    simp only [hget] at ht
    rcases List.mem_append.mp ht with ht | ht
    · rw [Script.eq_of_mem_visits (quiet_loadIndex s.root) ht]
      exact ⟨f, ⟨m, .inl rfl, hf⟩, hserves.finds⟩
    · cases ht

end Stands

end Disk

end Ninefold
