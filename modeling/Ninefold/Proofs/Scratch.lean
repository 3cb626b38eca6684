import Mathlib
import Ninefold.Editor
import Ninefold.Proofs.Disk.Changes
import Ninefold.Proofs.View

/-!
# Scratch files

A file that comes or goes at one place leaves every path leading where it led,
so that a file of another name shows what it showed. The scratch file of an edit
is named as no file of a session is: wherever it is written, the session shows
what it showed, and likewise where it is removed.
-/

namespace Ninefold

namespace FileTree

variable {t t' : FileTree} {cwd p q : Place} {root name path : String}

/-- Trees with the same at every place but one, where neither has a
directory. -/
structure SameBut (q : Place) (t t' : FileTree) : Prop where
  noDirectory : t.hasDirectory q = false
  noDirectory' : t'.hasDirectory q = false
  at?_eq : ∀ p, p ≠ q → t'.at? p = t.at? p

theorem SameBut.symm (h : SameBut q t t') : SameBut q t' t :=
  ⟨h.noDirectory', h.noDirectory, fun p hp => (h.at?_eq p hp).symm⟩

theorem SameBut.extends (h : SameBut q t t') : t'.Extends t := by
  intro p hp
  have hne : p ≠ q := by
    rintro rfl
    rw [h.noDirectory] at hp
    cases hp
  unfold hasDirectory at hp ⊢
  rwa [h.at?_eq p hne]

theorem sameBut_set (hq : q ≠ []) (h : t.hasDirectory q = false) (content : ByteArray) :
    SameBut q t (t.set q (.file content)) where
  noDirectory := h
  noDirectory' := hasDirectory_set_file hq h content
  at?_eq p hp := by rw [at?_set hq, if_neg hp]

theorem sameBut_unset (hq : q ≠ []) (h : t.hasDirectory q = false) : SameBut q t (t.unset q) where
  noDirectory := h
  noDirectory' := hasDirectory_unset hq h
  at?_eq p hp := by rw [at?_unset hq, if_neg hp]

/-- A path leads to something also in a tree that has something, be it another
file, wherever there was something. -/
theorem isThere_of_extends (h : t'.Extends t)
    (hsome : ∀ p, (t.at? p).isSome → (t'.at? p).isSome) (hthere : t.isThere cwd path = true) :
    t'.isThere cwd path = true := by
  obtain ⟨p, e, hfind⟩ := isThere_iff.mp hthere
  obtain ⟨hloc, hentry, hmeans⟩ := find_eq_ok_iff.mp hfind
  obtain ⟨e', hentry'⟩ := Option.isSome_iff_exists.mp (hsome p (by rw [hentry]; rfl))
  refine isThere_iff.mpr
    ⟨p, e', find_eq_ok_iff.mpr ⟨locate_of_extends h hloc, hentry', fun hdir => ?_⟩⟩
  -- where a directory was asked for there was one, and it is not gone
  have hkept := h p (hasDirectory_iff.mpr (hmeans hdir ▸ hentry))
  rw [hasDirectory_iff, hentry'] at hkept
  exact Option.some.inj hkept

theorem shows_child (hn : Path.Plain name)
    (hloc : t.locate cwd (Path.child root name) = .ok p) :
    t.shows cwd (Path.child root name) = t.at? p := by
  unfold shows find
  rw [hloc]
  simp only [bind, Except.bind]
  cases t.at? p with
  | none => rfl
  | some e =>
    cases e with
    | directory => rfl
    | file content =>
      rw [Path.meansDirectory_child hn]
      rfl

theorem shows_of_locate_error {e : FileError} (hloc : t.locate cwd path = .error e) :
    t.shows cwd path = none := by
  unfold shows find
  rw [hloc]
  rfl

/-- A path to a file of another name shows the same. -/
theorem SameBut.shows_child (h : SameBut (p ++ [name]) t t') {other : String}
    (hn : Path.Plain other) (hne : other ≠ name) :
    t'.shows cwd (Path.child root other) = t.shows cwd (Path.child root other) := by
  cases hloc : t.locate cwd (Path.child root other) with
  | ok q =>
    obtain ⟨p', -, -, -, -, rfl⟩ := (locate_child_eq_ok_iff hn).mp hloc
    have hplace : p' ++ [other] ≠ p ++ [name] := by
      intro heq
      exact hne (by simpa using congrArg List.getLast? heq)
    rw [FileTree.shows_child hn hloc, FileTree.shows_child hn (locate_of_extends h.extends hloc),
      h.at?_eq _ hplace]
  | error e =>
    cases hloc' : t'.locate cwd (Path.child root other) with
    | ok q =>
      rw [locate_of_extends h.symm.extends hloc'] at hloc
      cases hloc
    | error e' => rw [shows_of_locate_error hloc, shows_of_locate_error hloc']

/-! ## A file that comes or goes -/

/-- Where a file of a plain name was written, it may be new or other than it
was, and that is all. -/
theorem sameBut_of_write (hn : Path.Plain name) {content : ByteArray}
    (h : t.write cwd (Path.child root name) content = .ok t') :
    ∃ p, SameBut (p ++ [name]) t t' ∧ t'.at? (p ++ [name]) = some (.file content) := by
  obtain ⟨q, hplace, rfl⟩ := write_eq_ok_iff.mp h
  obtain ⟨hloc, -, hdir, -⟩ := writable_eq_ok_iff.mp hplace
  obtain ⟨p, -, -, -, -, rfl⟩ := (locate_child_eq_ok_iff hn).mp hloc
  exact ⟨p, sameBut_set (by simp) hdir content, by rw [at?_set (by simp), if_pos rfl]⟩

/-- Where a file of a plain name was removed, it is missing, and that is all. -/
theorem sameBut_of_remove (hn : Path.Plain name)
    (h : t.remove cwd (Path.child root name) = .ok t') :
    ∃ p, SameBut (p ++ [name]) t t' ∧ (t.at? (p ++ [name])).isSome := by
  obtain ⟨q, content, hfind, rfl⟩ := remove_eq_ok_iff.mp h
  obtain ⟨hloc, hentry, -⟩ := find_eq_ok_iff.mp hfind
  obtain ⟨p, -, -, -, -, rfl⟩ := (locate_child_eq_ok_iff hn).mp hloc
  exact ⟨p, sameBut_unset (by simp) (hasDirectory_of_file hentry), by rw [hentry]; rfl⟩

end FileTree

/-! ## The name of a scratch file -/

namespace Editor

theorem toList_scratchName (id : Ident) :
    (scratchName id).toList =
      ['p', 'h', 'e', 'x', 't', '_', 'e', 'd', 'i', 't', '_'] ++
        (id.text ++ ['.', 't', 'x', 't']) := by
  simp [scratchName, Ident.asString, Text.asString]

theorem length_scratchName (id : Ident) : (scratchName id).toList.length = 51 := by
  rw [toList_scratchName, List.length_append, List.length_append, id.length_text]
  rfl

theorem plain_scratchName (id : Ident) : Path.Plain (scratchName id) := by
  have hfront : ∀ c ∈ ['p', 'h', 'e', 'x', 't', '_', 'e', 'd', 'i', 't', '_'], Path.NameChar c := by
    simp [Path.NameChar]
  have hback : ∀ c ∈ ['.', 't', 'x', 't'], Path.NameChar c := by simp [Path.NameChar]
  refine Path.plain_of_nameChar ?_ (by rw [length_scratchName]; decide)
    (by rw [length_scratchName]; decide)
  intro c hc
  rw [toList_scratchName, List.mem_append, List.mem_append] at hc
  rcases hc with hc | hc | hc
  · exact hfront c hc
  · exact Disk.nameChar_of_mem_text hc
  · exact hback c hc

theorem ne_scratchName {name : String} (h : name.toList.length ≠ 51) (id : Ident) :
    name ≠ scratchName id := by
  rintro rfl
  exact h (length_scratchName id)

theorem ne_scratchName_of_storeName {name : String} (h : Disk.StoreName name) (id : Ident) :
    name ≠ scratchName id := by
  rcases h with rfl | ⟨id', rfl⟩
  · exact ne_scratchName (by decide) id
  · exact ne_scratchName (by rw [Disk.length_textName]; decide) id

end Editor

/-! ## What a session shows beside a scratch file -/

namespace Session

variable {s : Session} {w w' : World} {id : Ident} {path directory : String}

/-- The files that a session reads have other names than scratch files. -/
theorem Reads.exists_child_ne (h : s.Reads w path) (id : Ident) :
    ∃ root name, Path.Plain name ∧ name ≠ Editor.scratchName id ∧ path = Path.child root name := by
  obtain ⟨root, -, name, hname, rfl⟩ := h.exists_child
  refine ⟨root, name, hname.plain, ?_, rfl⟩
  rcases hname with rfl | hname
  · exact Editor.ne_scratchName (by decide) id
  · exact Editor.ne_scratchName_of_storeName hname id

theorem view_of_sameBut {p : Place} (hcwd : w'.cwd = w.cwd)
    (h : FileTree.SameBut (p ++ [Editor.scratchName id]) w.files w'.files)
    (hsome : (w'.files.at? (p ++ [Editor.scratchName id])).isSome) : s.view w' = s.view w := by
  have hentries : ∀ q, (w.files.at? q).isSome → (w'.files.at? q).isSome := by
    intro q hq
    by_cases hplace : q = p ++ [Editor.scratchName id]
    · rwa [hplace]
    · rwa [h.at?_eq q hplace]
  refine view_congr hcwd (fun path hpath => ?_) fun d _ hthere => ?_
  · obtain ⟨root, name, hn, hne, rfl⟩ := hpath.exists_child_ne id
    rw [hcwd]
    exact h.shows_child hn hne
  · exact FileTree.isThere_of_extends h.extends hentries hthere

/-- A session shows the same once a scratch file is written, wherever that
is. -/
theorem view_of_write {content : ByteArray} {files : FileTree}
    (h : w.files.write w.cwd (Path.child directory (Editor.scratchName id)) content = .ok files) :
    s.view { w with files } = s.view w := by
  obtain ⟨p, hsame, hentry⟩ := FileTree.sameBut_of_write (Editor.plain_scratchName id) h
  exact view_of_sameBut rfl hsame (Option.isSome_iff_exists.mpr ⟨_, hentry⟩)

/-- A session shows the same once a scratch file is removed. -/
theorem view_of_remove {files : FileTree}
    (h : w.files.remove w.cwd (Path.child directory (Editor.scratchName id)) = .ok files) :
    s.view { w with files } = s.view w := by
  obtain ⟨p, hsame, hsome⟩ := FileTree.sameBut_of_remove (Editor.plain_scratchName id) h
  have hback : s.view w = s.view { w with files } := view_of_sameBut rfl hsame.symm hsome
  exact hback.symm

/-- Whether it can be removed or not, asking for that changes nothing else. -/
theorem view_answer_remove :
    s.view (w.answer (.remove (Path.child directory (Editor.scratchName id)))).2 = s.view w := by
  rw [World.answer]
  cases h : w.files.remove w.cwd (Path.child directory (Editor.scratchName id)) with
  | ok files => exact view_of_remove h
  | error e => rfl

end Session

end Ninefold
