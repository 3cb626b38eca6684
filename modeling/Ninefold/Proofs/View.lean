import Mathlib
import Ninefold.Proofs.Disk.Granted
import Ninefold.Proofs.Disk.Service
import Ninefold.Proofs.Making
import Ninefold.Session.Call

/-!
# What can be seen of a session

What a session shows comes from the files that it reads. Making directories may
bring one of these to light, where the path to it leads through a new directory
and out of it again. This does no harm as long as the index that is found can be
read, and of a directory that cannot be made nothing comes to light; a session
is steady where that is so.
-/

namespace Ninefold

/-! ## What there is to a session -/

namespace Catalog

/-- The directories that a catalog makes. -/
def directories : Catalog → List String
  | .memory _ => []
  | .disk root => [root]

/-- The paths at which a catalog changes files. -/
def Own : Catalog → String → Prop
  | .memory _, _ => False
  | .disk root, path => Disk.Own root path

/-- The index of a catalog can be read. -/
def Readable : Catalog → World → Prop
  | .memory _, _ => True
  | .disk root, w => ∃ index, ((Disk.loadIndex root).perform w).1 = .ok index

/-- The paths that a catalog reads: that of its index, and those of the texts
that the index names. -/
def Reads : Catalog → World → String → Prop
  | .memory _, _, _ => False
  | .disk root, w, path =>
    path = Disk.indexPath root ∨ ∃ index label r,
      ((Disk.loadIndex root).perform w).1 = .ok index ∧ index.get? label = some r ∧
        path = Disk.textPath root r.id

end Catalog

/-- What can be seen of a session: the records of its documents, the document
of every label, what lies where the settings are kept, and the settings that it
has. -/
@[ext]
structure View where
  records : Except Failure (List Record)
  document : String → Except Failure (Option Stored)
  settingsFile : Option Entry
  settings : Settings

namespace Session

/-- What can be seen of a session in a world. -/
def view (s : Session) (w : World) : View where
  records := (s.catalog.list.perform w).1
  document label := ((s.catalog.fetch? label).perform w).1
  settingsFile := w.files.shows w.cwd (Settings.path s.root)
  settings := s.settings

/-- Whatever can be asked of a session. -/
inductive Demand where
  | call (c : Call)
  | path (label : Option String)

/-- A demand met: the session after it. -/
def meet (s : Session) : Demand → Act Session
  | .call c => do return (← s.call c).1
  | .path label => do
    let _ ← s.path label
    return s

/-- The session and the world that go on after a demand, also after one that
fails. -/
def goOn (s : Session) (d : Demand) (w : World) : Session × World :=
  match (s.meet d).perform w with
  | (.ok s', w') => (s', w')
  | (.error _, w') => (s, w')

/-- A session in memory without documents, of a user who has set nothing. -/
def newNotebook : Session := ⟨.memory .empty, "home", .standard⟩

/-- The directories that a session makes. -/
def directories (s : Session) : List String := s.root :: s.catalog.directories

/-- The paths of a session's own files, which it changes. -/
def Own (s : Session) (path : String) : Prop := path = Settings.path s.root ∨ s.catalog.Own path

/-- A name of a file that a session reads in one of its directories. -/
def FileName (name : String) : Prop := name = Disk.settingsName ∨ Disk.StoreName name

theorem FileName.plain {name : String} (h : FileName name) : Path.Plain name := by
  rcases h with rfl | h
  · exact Disk.plain_settingsName
  · exact h.plain

/-- The paths that a session reads. -/
def Reads (s : Session) (w : World) (path : String) : Prop :=
  path = Settings.path s.root ∨ s.catalog.Reads w path

/-- Making directories brings nothing to light that may do harm: no index that
cannot be read behind the directory of the catalog, and where a directory cannot
be made, no file elsewhere that the session reads. -/
structure Steady (s : Session) (w : World) : Prop where
  readable : ∀ d ∈ s.catalog.directories, s.catalog.Readable w →
    s.catalog.Readable { w with files := (w.files.makeDirectories w.cwd d).2 }
  elsewhere : ∀ d ∈ s.directories, ∀ e t, w.files.makeDirectories w.cwd d = (.error e, t) →
    ∀ path, s.Reads w path → (∀ name, Path.Plain name → path ≠ Path.child d name) →
      t.isThere w.cwd path = true → w.files.isThere w.cwd path = true

/-- The files that a failing operation may leave: those before it, or what is
left where a directory of the session cannot be made. -/
def MayLeave (s : Session) (w : World) (t : FileTree) : Prop :=
  t = w.files ∨ ∃ d ∈ s.directories, ∃ e, w.files.makeDirectories w.cwd d = (.error e, t)

/-- A session reads files of the store and the file of settings. -/
theorem Reads.exists_child {s : Session} {w : World} {path : String} (h : s.Reads w path) :
    ∃ d ∈ s.directories, ∃ name, FileName name ∧ path = Path.child d name := by
  obtain ⟨catalog, root, settings⟩ := s
  rcases h with rfl | h
  · exact ⟨root, .head _, _, .inl rfl, rfl⟩
  · cases catalog with
    | memory m => cases h
    | disk d =>
      have hd : d ∈ directories ⟨.disk d, root, settings⟩ := .tail _ (.head _)
      rcases h with rfl | ⟨index, label, r, -, -, rfl⟩
      · exact ⟨d, hd, _, .inr Disk.storeName_indexName, rfl⟩
      · exact ⟨d, hd, _, .inr (Disk.storeName_textName r.id), rfl⟩

/-- **A session with one directory is steady where no malformed index comes to
light.** -/
theorem steady_iff {s : Session} {w : World} (hs : ∀ d ∈ s.directories, d = s.root) :
    s.Steady w ↔ ∀ d ∈ s.catalog.directories, s.catalog.Readable w →
      s.catalog.Readable { w with files := (w.files.makeDirectories w.cwd d).2 } := by
  refine ⟨Steady.readable, fun h => ⟨h, fun d hd e t hmade path hpath hother => ?_⟩⟩
  obtain ⟨d', hd', name, hname, rfl⟩ := hpath.exists_child
  rw [hs d' hd', ← hs d hd] at hother
  exact absurd rfl (hother name hname.plain)

/-- A session whose directories are all there is steady. -/
theorem steady_of_isThere {s : Session} {w : World}
    (h : ∀ d ∈ s.directories, w.files.isThere w.cwd d = true) : s.Steady w where
  readable d hd hindex := by
    rwa [FileTree.makeDirectories_of_isThere (h d (.tail _ hd))]
  elsewhere d hd e t hmade path _ _ hthere := by
    have hsame := FileTree.makeDirectories_of_isThere (h d hd)
    rw [hmade] at hsame
    rwa [← hsame]

/-- So is one with a directory that holds nothing when it is made. -/
theorem steady_of_vacant {s : Session} {w : World} (h : Disk.Vacant s.root w.files w.cwd)
    (hs : ∀ d ∈ s.directories, d = s.root) : s.Steady w := by
  refine (steady_iff hs).mpr fun d hd _ => ?_
  obtain ⟨catalog, root, settings⟩ := s
  cases catalog with
  | memory m => trivial
  | disk d' =>
    obtain rfl : d = root := hs d (.tail _ hd)
    obtain rfl : d' = d := hs d' (.tail _ (.head _))
    obtain ⟨p, hhas⟩ := h.has
    exact ⟨.empty, Disk.perform_loadIndex (s := ⟨d', w.cwd, p⟩) rfl hhas.finds (.inl ⟨rfl, rfl⟩)⟩

/-! ## What can be seen -/

section View

variable {s : Session} {w w' : World}

/-- A path that a session reads shows the same after an operation that
fails. -/
theorem shows_of_mayLeave (hsteady : s.Steady w) (hleft : s.MayLeave w w'.files)
    (hcwd : w'.cwd = w.cwd) {path : String} (hpath : s.Reads w path) :
    w'.files.shows w'.cwd path = w.files.shows w.cwd path := by
  rw [hcwd]
  rcases hleft with hfiles | ⟨d, hd, e, hmade⟩
  · rw [hfiles]
  have hfiles : (w.files.makeDirectories w.cwd d).2 = w'.files := congrArg Prod.snd hmade
  have hkeeps : w'.files.Keeps w.files := hfiles ▸ FileTree.makeDirectories_keeps _ _ _
  refine hkeeps.shows fun hthere => ?_
  refine hsteady.elsewhere d hd e _ hmade _ hpath (fun name hn heq => ?_) hthere
  -- nothing is there in the directory that cannot be made
  have hnone := FileTree.isThere_of_makeDirectories_error hn (congrArg Prod.fst hmade)
  rw [hfiles, ← heq, hthere] at hnone
  cases hnone

theorem isThere_of_mayLeave (hleft : s.MayLeave w w'.files) {path : String}
    (hthere : w.files.isThere w.cwd path = true) : w'.files.isThere w.cwd path = true := by
  rcases hleft with hfiles | ⟨d, hd, e, hmade⟩
  · rw [hfiles, hthere]
  · have hfiles : (w.files.makeDirectories w.cwd d).2 = w'.files := congrArg Prod.snd hmade
    rw [← hfiles]
    exact (FileTree.makeDirectories_keeps _ _ _).isThere hthere

/-- A session shows the same where the paths that it reads do, also if its
directory has only been made. -/
theorem view_congr (hcwd : w'.cwd = w.cwd)
    (hshows : ∀ path, s.Reads w path →
      w'.files.shows w'.cwd path = w.files.shows w.cwd path)
    (hthere : ∀ d ∈ s.catalog.directories, w.files.isThere w.cwd d = true →
      w'.files.isThere w.cwd d = true) : s.view w' = s.view w := by
  obtain ⟨catalog, root, settings⟩ := s
  have hsettings : w'.files.shows w'.cwd (Settings.path root) =
      w.files.shows w.cwd (Settings.path root) := hshows _ (.inl rfl)
  cases catalog with
  | memory m => exact View.ext rfl rfl hsettings rfl
  | disk d =>
    have hindex : ((Disk.loadIndex d).perform w').1 = ((Disk.loadIndex d).perform w).1 :=
      Disk.loadIndex_congr hcwd (hshows _ (.inr (.inl rfl)))
    have hrecords : ((Disk.list d).perform w').1 = ((Disk.list d).perform w).1 :=
      Disk.list_congr hcwd hindex (hthere d (.head _))
    have hdocument : ∀ label, ((Disk.fetch? d label).perform w').1 =
        ((Disk.fetch? d label).perform w).1 := fun label =>
      Disk.fetch?_congr hcwd hindex fun index r hload hget =>
        hshows _ (.inr (.inr ⟨index, label, r, hload, hget, rfl⟩))
    exact View.ext hrecords (funext hdocument) hsettings rfl

/-- A session shows the same after an operation that fails. -/
theorem view_of_mayLeave (hsteady : s.Steady w) (hleft : s.MayLeave w w'.files)
    (hcwd : w'.cwd = w.cwd) : s.view w' = s.view w :=
  view_congr hcwd (fun _ => shows_of_mayLeave hsteady hleft hcwd) fun _ _ =>
    isThere_of_mayLeave hleft

end View

end Session

end Ninefold
