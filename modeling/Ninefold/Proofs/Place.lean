import Mathlib
import Ninefold.Proofs.FileTree

/-!
# The place that a path means

A path that leads anywhere leads to the place that its names spell, whatever
else the tree has. So what a request does to the files of a tree is said place
by place, without a look at the directories on the way: a change puts a file at
the place that its path means, or takes one from there, and directories that
are made leave all files as they are.
-/

namespace Ninefold

namespace Path

/-- The place one name further on. -/
def step (p : Place) (name : String) : Place :=
  if name == "." then p else if name == ".." then p.dropLast else p ++ [name]

/-- The place that a path means. -/
def place (cwd : Place) (path : String) : Place :=
  (names path).foldl step (if isAbsolute path then [] else cwd)

variable {name : String}

theorem step_plain (h : Plain name) (p : Place) : step p name = p ++ [name] := by
  unfold step
  rw [if_neg (by simpa using h.ne_dot), if_neg (by simpa using h.ne_dots)]

theorem place_child (h : Plain name) (cwd : Place) (root : String) :
    place cwd (child root name) = place cwd root ++ [name] := by
  rw [place, names_child h, isAbsolute_child h, List.foldl_append]
  exact step_plain h _

theorem place_child_inj {name' : String} (h : Plain name) (h' : Plain name') {cwd : Place}
    {root root' : String} (heq : place cwd (child root name) = place cwd (child root' name')) :
    name = name' := by
  rw [place_child h, place_child h'] at heq
  exact List.singleton_inj.mp (List.append_inj_right' heq rfl)

end Path

namespace FileTree

variable {t t' : FileTree} {cwd p q : Place} {path target : String} {content : ByteArray}

/-! ## Where paths lead -/

theorem eq_of_follow {names : List String} (h : t.follow p names = .ok q) :
    q = names.foldl Path.step p := by
  induction names generalizing p with
  | nil => exact (Except.ok.inj h).symm
  | cons name rest ih =>
    unfold follow at h
    split at h
    · cases h
    · cases h
    · rw [List.foldl_cons, Path.step]
      split at h
      next hdot => rw [if_pos hdot, ih h]
      next hdot =>
        rw [if_neg hdot]
        split at h
        next hdots => rw [if_pos hdots, ih h]
        next hdots =>
          rw [if_neg hdots]
          split at h
          · cases h
          · exact ih h

theorem eq_of_locate (h : t.locate cwd path = .ok q) : q = Path.place cwd path :=
  eq_of_follow (locate_eq_ok_iff.mp h).2.2.2

theorem at?_of_find {e : Entry} (h : t.find cwd path = .ok (p, e)) :
    p = Path.place cwd path ∧ t.at? p = some e := by
  obtain ⟨hloc, hentry, -⟩ := find_eq_ok_iff.mp h
  exact ⟨eq_of_locate hloc, hentry⟩

/-- What is read lies at the place that the path means. -/
theorem at?_of_read (h : t.read cwd path = .ok content) :
    t.at? (Path.place cwd path) = some (.file content) := by
  obtain ⟨p, hfind⟩ := read_eq_ok_iff.mp h
  obtain ⟨rfl, hentry⟩ := at?_of_find hfind
  exact hentry

theorem eq_of_writable (h : t.writable cwd path = .ok q) : q = Path.place cwd path ∧ q ≠ [] := by
  obtain ⟨hloc, -, hdir, -⟩ := writable_eq_ok_iff.mp h
  refine ⟨eq_of_locate hloc, ?_⟩
  rintro rfl
  -- the root is a directory
  cases hdir

/-! ## What changes do, place by place -/

theorem at?_of_write (h : t.write cwd path content = .ok t') (p : Place) :
    t'.at? p = if p = Path.place cwd path then some (.file content) else t.at? p := by
  obtain ⟨q, hplace, rfl⟩ := write_eq_ok_iff.mp h
  obtain ⟨rfl, hne⟩ := eq_of_writable hplace
  exact at?_set hne t (.file content) p

/-- A file that was written is read as it was written. -/
theorem read_of_write (h : t.write cwd path content = .ok t') : t'.read cwd path = .ok content := by
  obtain ⟨q, hplace, rfl⟩ := write_eq_ok_iff.mp h
  obtain ⟨hloc, hmeans, hdir, -⟩ := writable_eq_ok_iff.mp hplace
  have hne := (eq_of_writable hplace).2
  -- the path leads where it led, since no directory is gone
  have hleads := locate_of_extends (extends_set hne hdir (.file content)) hloc
  have hentry : (t.set q (.file content)).at? q = some (.file content) := by
    rw [at?_set hne, if_pos rfl]
  have hfound := find_eq_ok_iff.mpr ⟨hleads, hentry, by simp [hmeans]⟩
  exact read_eq_ok_iff.mpr ⟨q, hfound⟩

/-- The file that is renamed lies at the target's place afterwards, and all
others where they were. -/
theorem at?_of_rename (h : t.rename cwd path target = .ok t') :
    ∃ content, t.at? (Path.place cwd path) = some (.file content) ∧ ∀ p, t'.at? p =
      if p = Path.place cwd target then some (.file content)
      else if p = Path.place cwd path then none else t.at? p := by
  obtain ⟨q, q', content, hfind, hplace, rfl⟩ := rename_eq_ok_iff.mp h
  obtain ⟨rfl, hentry⟩ := at?_of_find hfind
  obtain ⟨rfl, hne⟩ := eq_of_writable hplace
  refine ⟨content, hentry, fun p => ?_⟩
  rw [at?_set hne, at?_unset (ne_nil_of_file hentry)]

theorem at?_of_remove (h : t.remove cwd path = .ok t') (p : Place) :
    t'.at? p = if p = Path.place cwd path then none else t.at? p := by
  obtain ⟨q, content, hfind, rfl⟩ := remove_eq_ok_iff.mp h
  obtain ⟨rfl, hentry⟩ := at?_of_find hfind
  exact at?_unset (ne_nil_of_file hentry) t p

theorem file_of_makeDirectory (h : t.makeDirectory cwd path = .ok t')
    (hfile : t'.at? p = some (.file content)) : t.at? p = some (.file content) := by
  obtain ⟨q, -, hfree, -, rfl⟩ := makeDirectory_eq_ok_iff.mp h
  have hq : q ≠ [] := by
    rintro rfl
    cases hfree
  rw [at?_set hq] at hfile
  split at hfile
  · cases hfile
  · exact hfile

/-- Where directories are made, no file is new, also where not all can be
made. -/
theorem file_of_makeDirectories (cwd : Place) (path : String)
    (hfile : (t.makeDirectories cwd path).2.at? p = some (.file content)) :
    t.at? p = some (.file content) :=
  makeDirectories_induction
    (R := fun t t' => t'.at? p = some (.file content) → t.at? p = some (.file content)) cwd
    (fun _ h => h) (fun h h' hfile => h (h' hfile)) (fun hmade => file_of_makeDirectory hmade)
    t path hfile

end FileTree

end Ninefold
