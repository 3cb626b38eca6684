import Mathlib
import Ninefold.FileTree
import Ninefold.Proofs.Path
import Ninefold.Proofs.Table

/-!
# Files in one directory

Once a path is known to lead to a directory, everything that happens to a file
of a plain name in it is said by what lies at one place: the requests come down
to look-ups and changes there, and whatever is done to files moves no
directory, so that the path goes on leading where it led.
-/

namespace Ninefold

namespace FileTree

variable {t t' : FileTree} {cwd p q : Place} {root name : String} {e : Entry}

/-! ## What lies at a place after a change -/

theorem at?_set (h : q ≠ []) (t : FileTree) (e : Entry) (p : Place) :
    (t.set q e).at? p = if p = q then some e else t.at? p := by
  unfold at? set
  rw [Table.get?_put]
  cases p with
  | nil => rw [if_neg (Ne.symm h), if_neg (Ne.symm h)]
  | cons n p => rfl

theorem at?_unset (h : q ≠ []) (t : FileTree) (p : Place) :
    (t.unset q).at? p = if p = q then none else t.at? p := by
  unfold at? unset
  rw [Table.get?_erase]
  cases p with
  | nil => rw [if_neg (Ne.symm h), if_neg (Ne.symm h)]
  | cons n p => rfl

theorem hasDirectory_iff : t.hasDirectory p = true ↔ t.at? p = some .directory := by
  unfold hasDirectory
  cases t.at? p with
  | none => simp
  | some e => cases e <;> simp [Entry.isDirectory]

theorem hasDirectory_of_none (h : t.at? p = none) : t.hasDirectory p = false := by
  unfold hasDirectory
  rw [h]
  rfl

theorem hasDirectory_of_file {content : ByteArray} (h : t.at? p = some (.file content)) :
    t.hasDirectory p = false := by
  unfold hasDirectory
  rw [h]
  rfl

theorem ne_nil_of_file {content : ByteArray} (h : t.at? p = some (.file content)) : p ≠ [] := by
  rintro rfl
  cases h

theorem mem_keys_of_at? (h : p ≠ []) (hentry : t.at? p = some e) : p ∈ t.entries.keys := by
  unfold at? at hentry
  rw [if_neg (by simpa using h)] at hentry
  exact List.mem_map.mpr ⟨_, Table.get?_eq_some_iff.mp hentry, rfl⟩

/-- A tree with the directories of another, and perhaps more. -/
def Extends (t' t : FileTree) : Prop :=
  ∀ p, t.hasDirectory p = true → t'.hasDirectory p = true

/-- A file put where no directory is leaves the directories. -/
theorem extends_set (h : q ≠ []) (hq : t.hasDirectory q = false) (e : Entry) :
    (t.set q e).Extends t := by
  intro p hp
  have hne : p ≠ q := by
    rintro rfl
    rw [hp] at hq
    cases hq
  rw [hasDirectory_iff] at hp ⊢
  rw [at?_set h, if_neg hne, hp]

theorem extends_unset (h : q ≠ []) (hq : t.hasDirectory q = false) : (t.unset q).Extends t := by
  intro p hp
  have hne : p ≠ q := by
    rintro rfl
    rw [hp] at hq
    cases hq
  rw [hasDirectory_iff] at hp ⊢
  rw [at?_unset h, if_neg hne, hp]

/-- No directory comes where a file is put or taken. -/
theorem hasDirectory_set_file (h : q ≠ []) (hp : t.hasDirectory p = false) (content : ByteArray) :
    (t.set q (.file content)).hasDirectory p = false := by
  unfold hasDirectory at hp ⊢
  rw [at?_set h]
  split
  · rfl
  · exact hp

theorem hasDirectory_unset (h : q ≠ []) (hp : t.hasDirectory p = false) :
    (t.unset q).hasDirectory p = false := by
  unfold hasDirectory at hp ⊢
  rw [at?_unset h]
  split
  · rfl
  · exact hp

/-! ## Following names -/

/-- The place that a name leads to from a directory. -/
def enter (start : Place) (name : String) : Except FileError Place :=
  if name == "." then .ok start
  else if name == ".." then .ok start.dropLast
  else if name.utf8ByteSize > nameLimit then .error .nameTooLong
  else .ok (start ++ [name])

theorem follow_cons (h : t.hasDirectory p = true) (name : String) (rest : List String) :
    t.follow p (name :: rest) = (enter p name).bind fun p => t.follow p rest := by
  rw [hasDirectory_iff] at h
  simp only [follow, h, enter]
  split
  · rfl
  · split
    · rfl
    · split <;> rfl

/-- Nothing leads on from where there is no directory. -/
theorem follow_blocked (h : t.hasDirectory p = false) :
    ∃ e, ∀ name rest, t.follow p (name :: rest) = .error e := by
  unfold hasDirectory at h
  cases hentry : t.at? p with
  | none => exact ⟨.missing, fun name rest => by rw [follow, hentry]⟩
  | some entry =>
    cases entry with
    | file content => exact ⟨.notDirectory, fun name rest => by rw [follow, hentry]⟩
    | directory =>
      rw [hentry] at h
      cases h

theorem hasDirectory_of_follow {names : List String}
    (h : t.follow p (name :: names) = .ok q) : t.hasDirectory p = true := by
  by_contra hdir
  obtain ⟨e, he⟩ := follow_blocked (by simpa using hdir)
  rw [he] at h
  cases h

theorem follow_append (t : FileTree) (start : Place) (names rest : List String) :
    t.follow start (names ++ rest) =
      (t.follow start names).bind fun p => t.follow p rest := by
  induction names generalizing start with
  | nil => rfl
  | cons name names ih =>
    cases hdir : t.hasDirectory start with
    | true =>
      rw [List.cons_append, follow_cons hdir, follow_cons hdir]
      cases enter start name with
      | error e => rfl
      | ok p => exact ih p
    | false =>
      obtain ⟨e, he⟩ := follow_blocked hdir
      rw [List.cons_append, he, he]
      rfl

theorem follow_append_eq_ok_iff {start : Place} {names rest : List String} :
    t.follow start (names ++ rest) = .ok q ↔
      ∃ p, t.follow start names = .ok p ∧ t.follow p rest = .ok q := by
  rw [follow_append]
  cases t.follow start names with
  | error e => simp [Except.bind]
  | ok p => simp [Except.bind]

/-- Names that lead somewhere pass through directories, so they lead there also
in a tree that has these. -/
theorem follow_of_extends (h : t'.Extends t) {start : Place} {names : List String}
    (hf : t.follow start names = .ok p) : t'.follow start names = .ok p := by
  induction names generalizing start with
  | nil => exact hf
  | cons name names ih =>
    have hdir := hasDirectory_of_follow hf
    rw [follow_cons hdir] at hf
    rw [follow_cons (h start hdir)]
    cases henter : enter start name with
    | error e =>
      rw [henter] at hf
      cases hf
    | ok q =>
      rw [henter] at hf
      exact ih hf

/-- A path leads somewhere if it can be a path at all and its names lead
there. -/
theorem locate_eq_ok_iff : t.locate cwd root = .ok p ↔
    (Text.ofString root).contains '\x00' = false ∧ root ≠ "" ∧ root.utf8ByteSize ≤ pathLimit ∧
      t.follow (if Path.isAbsolute root then [] else cwd) (Path.names root) = .ok p := by
  constructor
  · intro h
    unfold locate at h
    split at h
    · cases h
    next hnul =>
    split at h
    · cases h
    next hempty =>
    split at h
    · cases h
    next hlong =>
    refine ⟨Bool.eq_false_iff.mpr hnul, ?_, Nat.not_lt.mp hlong, h⟩
    rintro rfl
    exact hempty rfl
  · rintro ⟨hnul, hsome, hsize, hleads⟩
    have hempty : root.isEmpty = false := by simpa [String.isEmpty_iff] using hsome
    rw [locate, hnul, hempty, if_neg (by decide), if_neg (by decide), if_neg (by omega), hleads]

/-- A path that leads somewhere leads there also in a tree with more
directories. -/
theorem locate_of_extends (h : t'.Extends t) (hloc : t.locate cwd root = .ok p) :
    t'.locate cwd root = .ok p := by
  obtain ⟨hnul, hsome, hsize, hleads⟩ := locate_eq_ok_iff.mp hloc
  exact locate_eq_ok_iff.mpr ⟨hnul, hsome, hsize, follow_of_extends h hleads⟩

theorem enter_plain (h : Path.Plain name) (start : Place) :
    enter start name = .ok (start ++ [name]) := by
  have hlength : ¬ name.utf8ByteSize > nameLimit := by
    have := h.short
    unfold nameLimit
    omega
  unfold enter
  rw [if_neg (by simpa using h.ne_dot), if_neg (by simpa using h.ne_dots), if_neg hlength]

theorem follow_plain_eq_ok_iff (hn : Path.Plain name) :
    t.follow p [name] = .ok q ↔ t.hasDirectory p = true ∧ q = p ++ [name] := by
  constructor
  · intro h
    have hdir := hasDirectory_of_follow h
    rw [follow_cons hdir, enter_plain hn] at h
    exact ⟨hdir, (Except.ok.inj h).symm⟩
  · rintro ⟨hdir, rfl⟩
    rw [follow_cons hdir, enter_plain hn]
    rfl

/-! ## Requests that succeed

What a request asks for when it succeeds, and what it has then found or done.
-/

section Requests

variable {target : String} {content : ByteArray}

theorem find_eq_ok_iff : t.find cwd root = .ok (p, e) ↔
    t.locate cwd root = .ok p ∧ t.at? p = some e ∧
      (Path.meansDirectory root = true → e = .directory) := by
  unfold find
  cases t.locate cwd root with
  | error e' => simp [bind, Except.bind]
  | ok q =>
    simp only [bind, Except.bind, Except.ok.injEq]
    grind

theorem isThere_iff : t.isThere cwd root = true ↔ ∃ p e, t.find cwd root = .ok (p, e) := by
  unfold isThere
  cases t.find cwd root with
  | error e => simp [Except.isOk, Except.toBool]
  | ok found => exact ⟨fun _ => ⟨found.1, found.2, rfl⟩, fun _ => rfl⟩

theorem isDirectory_iff : t.isDirectory cwd root = true ↔
    ∃ p, t.locate cwd root = .ok p ∧ t.hasDirectory p = true := by
  have hfind : t.isDirectory cwd root = true ↔ ∃ p, t.find cwd root = .ok (p, .directory) := by
    unfold isDirectory
    cases t.find cwd root with
    | error e => simp
    | ok found =>
      obtain ⟨p, e⟩ := found
      cases e <;> simp
  simp only [hfind, find_eq_ok_iff, hasDirectory_iff, implies_true, and_true]

theorem read_eq_ok_iff : t.read cwd root = .ok content ↔
    ∃ p, t.find cwd root = .ok (p, .file content) := by
  unfold read
  cases t.find cwd root with
  | error e => simp [bind, Except.bind]
  | ok found =>
    obtain ⟨p, e⟩ := found
    cases e <;> simp [bind, Except.bind]

theorem writable_eq_ok_iff : t.writable cwd root = .ok q ↔
    t.locate cwd root = .ok q ∧ Path.meansDirectory root = false ∧ t.hasDirectory q = false ∧
      t.hasDirectory q.dropLast = true := by
  unfold writable
  cases t.locate cwd root with
  | error e => simp [bind, Except.bind]
  | ok p =>
    simp only [bind, Except.bind, Except.ok.injEq]
    grind

theorem write_eq_ok_iff : t.write cwd root content = .ok t' ↔
    ∃ q, t.writable cwd root = .ok q ∧ t' = t.set q (.file content) := by
  unfold write
  cases t.writable cwd root with
  | error e => simp [bind, Except.bind]
  | ok q => simp [bind, Except.bind, pure, Except.pure, eq_comm]

theorem remove_eq_ok_iff : t.remove cwd root = .ok t' ↔
    ∃ p content, t.find cwd root = .ok (p, .file content) ∧ t' = t.unset p := by
  unfold remove
  cases t.find cwd root with
  | error e => simp [bind, Except.bind]
  | ok found =>
    obtain ⟨p, e⟩ := found
    cases e <;> simp [bind, Except.bind, pure, Except.pure, eq_comm]

theorem rename_eq_ok_iff : t.rename cwd root target = .ok t' ↔
    ∃ p q content, t.find cwd root = .ok (p, .file content) ∧ t.writable cwd target = .ok q ∧
      t' = (t.unset p).set q (.file content) := by
  unfold rename
  cases t.find cwd root with
  | error e => simp [bind, Except.bind]
  | ok found =>
    obtain ⟨p, e⟩ := found
    cases e with
    | directory => simp [bind, Except.bind]
    | file content =>
      cases t.writable cwd target with
      | error e => simp [bind, Except.bind]
      | ok q => simp [bind, Except.bind, pure, Except.pure, eq_comm]

theorem makeDirectory_eq_ok_iff : t.makeDirectory cwd root = .ok t' ↔
    ∃ q, t.locate cwd root = .ok q ∧ t.at? q = none ∧ t.hasDirectory q.dropLast = true ∧
      t' = t.set q .directory := by
  unfold makeDirectory
  cases t.locate cwd root with
  | error e => simp [bind, Except.bind]
  | ok q =>
    simp only [bind, Except.bind, Except.ok.injEq, exists_eq_left']
    cases t.at? q with
    | some e => simp
    | none => cases t.hasDirectory q.dropLast <;> simp [eq_comm]

end Requests

/-! ## Paths of plain names -/

/-- A path leads to a directory, and there is room for a name behind it. -/
structure Houses (t : FileTree) (cwd : Place) (root : String) (p : Place) : Prop where
  nulFree : (Text.ofString root).contains '\x00' = false
  fits : (Path.lead root).utf8ByteSize + 90 ≤ pathLimit
  leads : t.follow (if Path.isAbsolute root then [] else cwd) (Path.names root) = .ok p
  directory : t.hasDirectory p = true

theorem Houses.of_extends (h : t.Houses cwd root p) (h' : t'.Extends t) :
    t'.Houses cwd root p :=
  ⟨h.nulFree, h.fits, follow_of_extends h' h.leads, h' p h.directory⟩

/-- A path leads to a plain name if there is room for it in a directory that the
path before it leads to. -/
theorem locate_child_eq_ok_iff (hn : Path.Plain name) :
    t.locate cwd (Path.child root name) = .ok q ↔
      ∃ p, (Text.ofString root).contains '\x00' = false ∧
        (Path.lead root).utf8ByteSize + name.utf8ByteSize ≤ pathLimit ∧
        t.follow (if Path.isAbsolute root then [] else cwd) (Path.names root) = .ok p ∧
        t.hasDirectory p = true ∧ q = p ++ [name] := by
  rw [locate_eq_ok_iff, Path.contains_nul_child hn, Path.utf8ByteSize_child,
    Path.isAbsolute_child hn, Path.names_child hn, follow_append_eq_ok_iff]
  simp only [follow_plain_eq_ok_iff hn]
  constructor
  · rintro ⟨hnul, -, hfits, p, hp⟩
    exact ⟨p, hnul, hfits, hp⟩
  · rintro ⟨p, hnul, hfits, hp⟩
    exact ⟨hnul, Path.child_ne_empty hn root, hfits, p, hp⟩

theorem Houses.locate (h : t.Houses cwd root p) (hn : Path.Plain name) :
    t.locate cwd (Path.child root name) = .ok (p ++ [name]) := by
  have hroom : (Path.lead root).utf8ByteSize + name.utf8ByteSize ≤ pathLimit := by
    have := h.fits
    have := hn.short
    omega
  exact (locate_child_eq_ok_iff hn).mpr ⟨p, h.nulFree, hroom, h.leads, h.directory, rfl⟩

/-- Where a name that takes all the room can be written, it is in a directory,
and no other name is too long there. -/
theorem houses_of_write (hn : Path.Plain name) (hlong : name.utf8ByteSize = 90)
    {content : ByteArray} (h : t.write cwd (Path.child root name) content = .ok t') :
    ∃ p, t.Houses cwd root p := by
  obtain ⟨q, hplace, -⟩ := write_eq_ok_iff.mp h
  obtain ⟨hloc, -⟩ := writable_eq_ok_iff.mp hplace
  obtain ⟨p, hnul, hfits, hf, hdir, -⟩ := (locate_child_eq_ok_iff hn).mp hloc
  exact ⟨p, hnul, by omega, hf, hdir⟩

/-- A path that leads to a directory finds it. -/
theorem isDirectory_of_leads (hroot : root ≠ "")
    (hnul : (Text.ofString root).contains '\x00' = false)
    (hfits : (Path.lead root).utf8ByteSize ≤ pathLimit)
    (hleads : t.follow (if Path.isAbsolute root then [] else cwd) (Path.names root) = .ok p)
    (hdir : t.hasDirectory p = true) : t.isDirectory cwd root = true := by
  have hsize : root.utf8ByteSize ≤ pathLimit := (Path.utf8ByteSize_le_lead root).trans hfits
  exact isDirectory_iff.mpr ⟨p, locate_eq_ok_iff.mpr ⟨hnul, hroot, hsize, hleads⟩, hdir⟩

theorem isThere_of_isDirectory (h : t.isDirectory cwd root = true) : t.isThere cwd root = true := by
  obtain ⟨p, hloc, hdir⟩ := isDirectory_iff.mp h
  have hfind := find_eq_ok_iff.mpr ⟨hloc, hasDirectory_iff.mp hdir, fun _ => rfl⟩
  exact isThere_iff.mpr ⟨p, .directory, hfind⟩

theorem Houses.isThere_root (h : t.Houses cwd root p) (hroot : root ≠ "") :
    t.isThere cwd root = true :=
  isThere_of_isDirectory <|
    isDirectory_of_leads hroot h.nulFree (by have := h.fits; omega) h.leads h.directory

/-- The empty path leads nowhere. -/
theorem ne_empty_of_isThere (h : t.isThere cwd root = true) : root ≠ "" := by
  rintro rfl
  cases h

/-- Where something is found in a directory, the directory is there. -/
theorem isDirectory_of_isThere_child (hn : Path.Plain name) (hroot : root ≠ "")
    (h : t.isThere cwd (Path.child root name) = true) : t.isDirectory cwd root = true := by
  obtain ⟨q, e, hfind⟩ := isThere_iff.mp h
  obtain ⟨hloc, -⟩ := find_eq_ok_iff.mp hfind
  obtain ⟨p, hnul, hfits, hleads, hdir, -⟩ := (locate_child_eq_ok_iff hn).mp hloc
  exact isDirectory_of_leads hroot hnul (by omega) hleads hdir

theorem isThere_of_isThere_child (hn : Path.Plain name) (hroot : root ≠ "")
    (h : t.isThere cwd (Path.child root name) = true) : t.isThere cwd root = true :=
  isThere_of_isDirectory (isDirectory_of_isThere_child hn hroot h)

/-! ## Requests for plain names -/

section Houses

variable (h : t.Houses cwd root p) (hn : Path.Plain name)

include h hn

theorem Houses.find :
    t.find cwd (Path.child root name) =
      (t.at? (p ++ [name])).elim (.error .missing) fun e => .ok (p ++ [name], e) := by
  unfold FileTree.find
  rw [h.locate hn]
  cases hentry : t.at? (p ++ [name]) with
  | none => simp only [bind, Except.bind, hentry, Option.elim_none]
  | some e =>
    cases e <;> simp [bind, Except.bind, hentry, Path.meansDirectory_child hn]

theorem Houses.isThere :
    t.isThere cwd (Path.child root name) = (t.at? (p ++ [name])).isSome := by
  rw [FileTree.isThere, h.find hn]
  cases t.at? (p ++ [name]) <;> rfl

theorem Houses.read_file {content : ByteArray}
    (hentry : t.at? (p ++ [name]) = some (.file content)) :
    t.read cwd (Path.child root name) = .ok content := by
  unfold FileTree.read
  rw [h.find hn, hentry]
  rfl

theorem Houses.isFile {content : ByteArray} (hentry : t.at? (p ++ [name]) = some (.file content)) :
    t.isFile cwd (Path.child root name) = true := by
  unfold FileTree.isFile
  rw [h.find hn, hentry]
  rfl

/-- Whether a name can be written to is a matter of its own place. -/
theorem Houses.writable :
    t.writable cwd (Path.child root name) =
      if t.hasDirectory (p ++ [name]) then .error .isDirectory else .ok (p ++ [name]) := by
  unfold FileTree.writable
  rw [h.locate hn]
  simp only [bind, Except.bind, Path.meansDirectory_child hn, List.dropLast_concat, h.directory]
  rfl

theorem Houses.write (hdir : t.hasDirectory (p ++ [name]) = false) (content : ByteArray) :
    t.write cwd (Path.child root name) content = .ok (t.set (p ++ [name]) (.file content)) := by
  unfold FileTree.write
  rw [h.writable hn, hdir]
  rfl

theorem Houses.remove {content : ByteArray} (hentry : t.at? (p ++ [name]) = some (.file content)) :
    t.remove cwd (Path.child root name) = .ok (t.unset (p ++ [name])) := by
  unfold FileTree.remove
  rw [h.find hn, hentry]
  rfl

theorem Houses.rename {target : String} (ht : Path.Plain target) {content : ByteArray}
    (hentry : t.at? (p ++ [name]) = some (.file content))
    (hdir : t.hasDirectory (p ++ [target]) = false) :
    t.rename cwd (Path.child root name) (Path.child root target) =
      .ok ((t.unset (p ++ [name])).set (p ++ [target]) (.file content)) := by
  unfold FileTree.rename
  rw [h.find hn, hentry]
  simp only [bind, Except.bind, Option.elim_some, h.writable ht, hdir]
  rfl

/-- Where a name of a directory was written, it is no directory. -/
theorem Houses.of_write {content : ByteArray}
    (hwrite : t.write cwd (Path.child root name) content = .ok t') :
    t.hasDirectory (p ++ [name]) = false ∧ t' = t.set (p ++ [name]) (.file content) := by
  obtain ⟨q, hplace, rfl⟩ := write_eq_ok_iff.mp hwrite
  obtain ⟨hloc, -, hdir, -⟩ := writable_eq_ok_iff.mp hplace
  rw [h.locate hn] at hloc
  obtain rfl : p ++ [name] = q := Except.ok.inj hloc
  exact ⟨hdir, rfl⟩

/-- Where a name of a directory took another's place, that is no directory
either. -/
theorem Houses.of_rename {target : String} (ht : Path.Plain target)
    (hrename : t.rename cwd (Path.child root name) (Path.child root target) = .ok t') :
    t.hasDirectory (p ++ [name]) = false ∧ t.hasDirectory (p ++ [target]) = false ∧
      ∃ content, t' = (t.unset (p ++ [name])).set (p ++ [target]) (.file content) := by
  obtain ⟨q, q', content, hfind, hplace, rfl⟩ := rename_eq_ok_iff.mp hrename
  obtain ⟨hloc, hentry, -⟩ := find_eq_ok_iff.mp hfind
  obtain ⟨hloc', -, hdir, -⟩ := writable_eq_ok_iff.mp hplace
  rw [h.locate hn] at hloc
  rw [h.locate ht] at hloc'
  obtain rfl : p ++ [name] = q := Except.ok.inj hloc
  obtain rfl : p ++ [target] = q' := Except.ok.inj hloc'
  exact ⟨hasDirectory_of_file hentry, hdir, content, rfl⟩

/-- A file written under one name and put in place under another leaves the
directory where it is, and what lies in it under any other name. -/
theorem Houses.replaced {target : String} (ht : Path.Plain target) {t'' : FileTree}
    {content : ByteArray} (hwrite : t.write cwd (Path.child root name) content = .ok t')
    (hrename : t'.rename cwd (Path.child root name) (Path.child root target) = .ok t'') :
    t''.Houses cwd root p ∧
      ∀ other, other ≠ name → other ≠ target → t''.at? (p ++ [other]) = t.at? (p ++ [other]) := by
  obtain ⟨hdir, hwritten⟩ := h.of_write hn hwrite
  have hhouses : t'.Houses cwd root p := by
    rw [hwritten]
    exact h.of_extends (extends_set (by simp) hdir _)
  obtain ⟨hname, htarget, placed, hplaced⟩ := hhouses.of_rename hn ht hrename
  have htarget' := hasDirectory_unset (q := p ++ [name]) (by simp) htarget
  have hunset := hhouses.of_extends (extends_unset (by simp) hname)
  constructor
  · rw [hplaced]
    exact hunset.of_extends (extends_set (by simp) htarget' _)
  · intro other hother hother'
    have hne : p ++ [other] ≠ p ++ [name] := by simpa using hother
    have hne' : p ++ [other] ≠ p ++ [target] := by simpa using hother'
    rw [hplaced, at?_set (by simp), if_neg hne', at?_unset (by simp), if_neg hne, hwritten,
      at?_set (by simp), if_neg hne]

/-- A name leads to the same in two trees that have the same at its place. -/
theorem Houses.find_congr (h' : t'.Houses cwd root p)
    (hsame : t'.at? (p ++ [name]) = t.at? (p ++ [name])) :
    t'.find cwd (Path.child root name) = t.find cwd (Path.child root name) := by
  rw [h.find hn, h'.find hn, hsame]

end Houses

/-! ## What a path shows -/

/-- What lies where a path leads, if it leads anywhere. -/
def shows (t : FileTree) (cwd : Place) (path : String) : Option Entry :=
  (t.find cwd path).toOption.map Prod.snd

theorem isThere_eq (t : FileTree) (cwd : Place) (path : String) :
    t.isThere cwd path = (t.shows cwd path).isSome := by
  unfold isThere shows
  cases t.find cwd path <;> rfl

theorem shows_eq_none (h : t.isThere cwd root = false) : t.shows cwd root = none := by
  rwa [isThere_eq, Option.isSome_eq_false_iff, Option.isNone_iff_eq_none] at h

theorem isThere_of_read {content : ByteArray} (h : t.read cwd root = .ok content) :
    t.isThere cwd root = true := by
  obtain ⟨p, hfind⟩ := read_eq_ok_iff.mp h
  exact isThere_iff.mpr ⟨p, _, hfind⟩

/-- What is read where a path leads is what it shows. -/
theorem read_congr (h : t'.shows cwd root = t.shows cwd root) (hthere : t.isThere cwd root = true) :
    t'.read cwd root = t.read cwd root := by
  unfold isThere at hthere
  unfold shows at h
  unfold read
  cases hfind : t.find cwd root with
  | error e =>
    rw [hfind] at hthere
    cases hthere
  | ok found =>
    cases hfind' : t'.find cwd root with
    | error e =>
      rw [hfind, hfind'] at h
      cases h
    | ok found' =>
      rw [hfind, hfind'] at h
      obtain ⟨q, e⟩ := found
      obtain ⟨q', e'⟩ := found'
      obtain rfl : e' = e := Option.some.inj h
      cases e' <;> rfl

/-! ## Making directories -/

/-- A tree with everything of another where it lies, and perhaps more. -/
def Keeps (t' t : FileTree) : Prop := ∀ p e, t.at? p = some e → t'.at? p = some e

theorem Keeps.refl (t : FileTree) : t.Keeps t := fun _ _ h => h

theorem Keeps.trans {t'' : FileTree} (h : t'.Keeps t) (h' : t''.Keeps t') : t''.Keeps t :=
  fun p e hp => h' p e (h p e hp)

theorem Keeps.extends (h : t'.Keeps t) : t'.Extends t := fun p hp =>
  hasDirectory_iff.mpr (h p .directory (hasDirectory_iff.mp hp))

/-- What a path leads to, it leads to also in a tree that keeps it. -/
theorem Keeps.find (h : t'.Keeps t) (hfind : t.find cwd root = .ok (p, e)) :
    t'.find cwd root = .ok (p, e) := by
  obtain ⟨hloc, hentry, hmeans⟩ := find_eq_ok_iff.mp hfind
  exact find_eq_ok_iff.mpr ⟨locate_of_extends h.extends hloc, h p e hentry, hmeans⟩

theorem Keeps.isThere (h : t'.Keeps t) (hthere : t.isThere cwd root = true) :
    t'.isThere cwd root = true := by
  obtain ⟨p, e, hfind⟩ := isThere_iff.mp hthere
  exact isThere_iff.mpr ⟨p, e, h.find hfind⟩

/-- Where a path leads to nothing new, it shows what it showed. -/
theorem Keeps.shows (h : t'.Keeps t)
    (hback : t'.isThere cwd root = true → t.isThere cwd root = true) :
    t'.shows cwd root = t.shows cwd root := by
  cases hthere : t.isThere cwd root with
  | false =>
    cases hthere' : t'.isThere cwd root with
    | false => rw [shows_eq_none hthere, shows_eq_none hthere']
    | true =>
      rw [hback hthere'] at hthere
      cases hthere
  | true =>
    obtain ⟨p, e, hfind⟩ := isThere_iff.mp hthere
    rw [FileTree.shows, FileTree.shows, hfind, h.find hfind]

theorem makeDirectory_keeps (h : t.makeDirectory cwd root = .ok t') : t'.Keeps t := by
  obtain ⟨q, -, hfree, -, rfl⟩ := makeDirectory_eq_ok_iff.mp h
  intro p e hp
  have hne : p ≠ q := by
    rintro rfl
    rw [hp] at hfree
    cases hfree
  have hq : q ≠ [] := by
    rintro rfl
    cases hfree
  rw [at?_set hq, if_neg hne, hp]

/-- What holds wherever nothing or one directory is made, and of one change
after another, holds where a directory and all above it are made, also where
not all can be. -/
theorem makeDirectories_induction {R : FileTree → FileTree → Prop} (cwd : Place)
    (refl : ∀ t, R t t) (trans : ∀ {t t' t''}, R t t' → R t' t'' → R t t'')
    (make : ∀ {t t' path}, makeDirectory t cwd path = .ok t' → R t t') (t : FileTree)
    (path : String) : R t (t.makeDirectories cwd path).2 := by
  have hfrom : ∀ fuel path, R t (t.makeDirectoriesFrom cwd fuel path).2 := by
    intro fuel
    induction fuel with
    | zero => exact fun _ => refl t
    | succ fuel ih =>
      intro path
      unfold makeDirectoriesFrom
      split
      · exact refl t
      split
      next t' hmade => exact make hmade
      next =>
        split
        · exact refl t
        next above _ =>
        have habove := ih above
        split
        next e t' hfrom => rwa [hfrom] at habove
        next t' hfrom =>
          rw [hfrom] at habove
          split
          next t'' hmade => exact trans habove (make hmade)
          next => exact habove
      next => exact refl t
  exact hfrom _ path

/-- Directories are made beside what is there, also where not all can be
made. -/
theorem makeDirectories_keeps (t : FileTree) (cwd : Place) (path : String) :
    (t.makeDirectories cwd path).2.Keeps t :=
  makeDirectories_induction (R := fun t t' => t'.Keeps t) cwd Keeps.refl
    (fun h h' => h.trans h') makeDirectory_keeps t path

/-- What is there already need not be made. -/
theorem makeDirectories_of_isThere (h : t.isThere cwd root = true) :
    (t.makeDirectories cwd root).2 = t := by
  obtain ⟨p, e, hfind⟩ := isThere_iff.mp h
  obtain ⟨hloc, hentry, -⟩ := find_eq_ok_iff.mp hfind
  have hmake : t.makeDirectory cwd root = .error .present := by
    unfold makeDirectory
    rw [hloc]
    exact if_pos (by rw [hentry]; rfl)
  unfold makeDirectories makeDirectoriesFrom
  split
  · rfl
  · rw [hmake]

end FileTree

end Ninefold
