import Mathlib
import Ninefold.Proofs.Act
import Ninefold.Proofs.FileTree

/-!
# What scripts ask for

A property of all requests that a script can make, whatever it is answered, is
one of the script. A script of quiet requests, which change no file, leaves the
files as they are when it ends and wherever it is cut short; one that only
looks at certain paths comes to the same wherever these look the same.
-/

namespace Ninefold

variable {α β : Type}

/-! ## Requests -/

/-- A request that changes no file. -/
def Request.Quiet : Request → Prop
  | .write .. => False
  | .rename .. => False
  | .remove .. => False
  | .makeDirectories .. => False
  | _ => True

/-- A request that looks at one of certain paths, or only tells something. -/
def Request.Looks (at_ : String → Prop) : Request → Prop
  | .isThere path => at_ path
  | .read path => at_ path
  | .note _ => True
  | _ => False

theorem Request.Looks.quiet {at_ : String → Prop} {r : Request} (h : r.Looks at_) : r.Quiet := by
  cases r <;> trivial

theorem Request.Looks.mono {at_ at_' : String → Prop} (hat : ∀ path, at_ path → at_' path)
    {r : Request} (h : r.Looks at_) : r.Looks at_' := by
  cases r with
  | isThere path => exact hat path h
  | read path => exact hat path h
  | note n => trivial
  | _ => cases h

theorem World.cwd_answer (w : World) (r : Request) : (w.answer r).2.cwd = w.cwd := by
  cases r with
  | write path content =>
    simp only [answer]
    cases w.files.write w.cwd path content <;> rfl
  | rename source target =>
    simp only [answer]
    cases w.files.rename w.cwd source target <;> rfl
  | remove path =>
    simp only [answer]
    cases w.files.remove w.cwd path <;> rfl
  | _ => rfl

/-- The clock stands still. -/
theorem World.clock_answer (w : World) (r : Request) : (w.answer r).2.clock = w.clock := by
  cases r with
  | write path content =>
    simp only [answer]
    cases w.files.write w.cwd path content <;> rfl
  | rename source target =>
    simp only [answer]
    cases w.files.rename w.cwd source target <;> rfl
  | remove path =>
    simp only [answer]
    cases w.files.remove w.cwd path <;> rfl
  | _ => rfl

theorem World.files_answer {r : Request} (h : r.Quiet) (w : World) :
    (w.answer r).2.files = w.files := by
  cases r with
  | write => cases h
  | rename => cases h
  | remove => cases h
  | makeDirectories => cases h
  | _ => rfl

theorem World.stages_quiet {r : Request} (h : r.Quiet) (w : World) : w.stages r = [w.files] := by
  cases r with
  | write => cases h
  | rename => cases h
  | remove => cases h
  | makeDirectories => cases h
  | _ => rfl

/-- A path looks the same in two trees. -/
structure FileTree.Alike (t t' : FileTree) (cwd : Place) (path : String) : Prop where
  isThere : t'.isThere cwd path = t.isThere cwd path
  read : t'.read cwd path = t.read cwd path

/-- Two worlds in which certain paths look the same. -/
structure World.Alike (w w' : World) (at_ : String → Prop) : Prop where
  cwd : w'.cwd = w.cwd
  files : ∀ path, at_ path → w.files.Alike w'.files w.cwd path

theorem World.Alike.refl (w : World) (at_ : String → Prop) : w.Alike w at_ :=
  ⟨rfl, fun _ _ => ⟨rfl, rfl⟩⟩

theorem World.Alike.of_files {w w' : World} (hcwd : w'.cwd = w.cwd) (h : w'.files = w.files)
    (at_ : String → Prop) : w.Alike w' at_ :=
  ⟨hcwd, fun path _ => by rw [h]; exact ⟨rfl, rfl⟩⟩

theorem World.Alike.trans {w w' w'' : World} {at_ : String → Prop} (h : w.Alike w' at_)
    (h' : w'.Alike w'' at_) : w.Alike w'' at_ := by
  refine ⟨h'.cwd.trans h.cwd, fun path hpath => ?_⟩
  have hfirst := h.files path hpath
  have hsecond := h'.files path hpath
  rw [h.cwd] at hsecond
  exact ⟨hsecond.isThere.trans hfirst.isThere, hsecond.read.trans hfirst.read⟩

namespace Script

/-! ## Scripts -/

instance : LawfulMonad Script :=
  .mk' Script (fun s => bind_done s) (fun _ _ => rfl) bind_assoc

theorem run_ask (r : Request) (next : r.Answer → Script α) (w : World) :
    (Script.ask r next).run w = (next (w.answer r).1).run (w.answer r).2 := rfl

/-- All requests that a script can make have a property. -/
def AsksOnly (P : Request → Prop) : Script α → Prop
  | .done _ => True
  | .ask r next => P r ∧ ∀ a, (next a).AsksOnly P

theorem AsksOnly.bind {P : Request → Prop} {s : Script α} {f : α → Script β} (h : s.AsksOnly P)
    (h' : ∀ a, (f a).AsksOnly P) : (s.bind f).AsksOnly P := by
  induction s with
  | done a => exact h' a
  | ask r next ih => exact ⟨h.1, fun a => ih a (h.2 a)⟩

theorem AsksOnly.mono {P Q : Request → Prop} {s : Script α} (h : s.AsksOnly P)
    (hPQ : ∀ r, P r → Q r) : s.AsksOnly Q := by
  induction s with
  | done a => trivial
  | ask r next ih => exact ⟨hPQ r h.1, fun a => ih a (h.2 a)⟩

theorem cwd_run (s : Script α) (w : World) : (s.run w).2.cwd = w.cwd := by
  induction s generalizing w with
  | done a => rfl
  | ask r next ih =>
    rw [run_ask]
    exact (ih _ _).trans (w.cwd_answer r)

theorem clock_run (s : Script α) (w : World) : (s.run w).2.clock = w.clock := by
  induction s generalizing w with
  | done a => rfl
  | ask r next ih =>
    rw [run_ask]
    exact (ih _ _).trans (w.clock_answer r)

theorem files_run {s : Script α} (h : s.AsksOnly Request.Quiet) (w : World) :
    (s.run w).2.files = w.files := by
  induction s generalizing w with
  | done a => rfl
  | ask r next ih =>
    rw [run_ask]
    exact (ih _ (h.2 _) _).trans (World.files_answer h.1 w)

/-- A quiet script leaves the files as they are at each of its steps. -/
theorem eq_of_mem_visits {s : Script α} (h : s.AsksOnly Request.Quiet) {w : World} {t : FileTree}
    (ht : t ∈ s.visits w) : t = w.files := by
  induction s generalizing w with
  | done a => cases ht
  | ask r next ih =>
    rw [visits, List.mem_append, World.stages_quiet h.1, List.mem_singleton] at ht
    rcases ht with ht | ht
    · exact ht
    · rw [ih _ (h.2 _) ht, World.files_answer h.1]

/-- A script that only looks comes to the same where it sees the same. -/
theorem run_alike {at_ : String → Prop} {s : Script α} (h : s.AsksOnly (Request.Looks at_))
    {w w' : World} (hw : w.Alike w' at_) : (s.run w').1 = (s.run w).1 := by
  induction s generalizing w w' with
  | done a => rfl
  | ask r next ih =>
    have hanswer : (w'.answer r).1 = (w.answer r).1 := by
      cases r with
      | isThere path => rw [World.answer, World.answer, hw.cwd]; exact (hw.files path h.1).isThere
      | read path => rw [World.answer, World.answer, hw.cwd]; exact (hw.files path h.1).read
      | note n => rfl
      | _ => cases h.1
    have hafter : (w.answer r).2.Alike (w'.answer r).2 at_ := by
      cases r with
      | isThere path => exact hw
      | read path => exact hw
      | note n => exact ⟨hw.cwd, hw.files⟩
      | _ => cases h.1
    rw [run_ask, run_ask, hanswer]
    exact ih _ (h.2 _) hafter

/-- A script that only looks leaves nothing behind but notes. -/
theorem exists_run_eq_noted {at_ : String → Prop} {s : Script α}
    (h : s.AsksOnly (Request.Looks at_)) (w : World) : ∃ ns, (s.run w).2 = w.noted ns := by
  induction s generalizing w with
  | done a => exact ⟨[], w.noted_nil.symm⟩
  | ask r next ih =>
    obtain ⟨ns, hanswer⟩ : ∃ ns, (w.answer r).2 = w.noted ns := by
      cases r with
      | isThere path => exact ⟨[], w.noted_nil.symm⟩
      | read path => exact ⟨[], w.noted_nil.symm⟩
      | note n => exact ⟨[n], rfl⟩
      | _ => cases h.1
    obtain ⟨ns', hrest⟩ := ih _ (h.2 _) (w.answer r).2
    exact ⟨ns ++ ns', by rw [run_ask, hrest, hanswer, World.noted_noted]⟩

end Script

namespace Act

/-! ## Acts -/

/-- The file trees that an act leaves behind, after each of its steps. -/
def leaves (a : Act α) (w : World) : List FileTree := Script.visits (ExceptT.run a) w

/-- All requests that an act can make have a property. -/
def AsksOnly (P : Request → Prop) (a : Act α) : Prop := Script.AsksOnly P (ExceptT.run a)

variable {P : Request → Prop} {a : Act α} {f : α → Act β} {w w' : World}

theorem asksOnly_pure (x : α) : AsksOnly P (pure x) := trivial

theorem asksOnly_throw (e : Failure) : AsksOnly P (throw e : Act α) := trivial

theorem asksOnly_send {r : Request} (h : P r) : AsksOnly P (send r) := ⟨h, fun _ => trivial⟩

theorem AsksOnly.bind (h : a.AsksOnly P) (h' : ∀ x, (f x).AsksOnly P) : (a >>= f).AsksOnly P := by
  refine Script.AsksOnly.bind h fun r => ?_
  cases r with
  | ok x => exact h' x
  | error e => trivial

theorem asksOnly_file {s : Script (Except FileError α)} (h : s.AsksOnly P) :
    (file s).AsksOnly P := by
  refine Script.AsksOnly.bind h fun r => ?_
  cases r <;> trivial

theorem asksOnly_notes (h : ∀ n, P (.note n)) (ns : List Note) : (notes ns).AsksOnly P := by
  induction ns with
  | nil => trivial
  | cons n rest ih => exact (asksOnly_send (h n)).bind fun _ => ih

theorem asksOnly_reading (h : ∀ n, P (.note n)) (r : Reading α) : (reading r).AsksOnly P := by
  unfold reading
  obtain ⟨result, ns⟩ := r.notes
  refine (asksOnly_notes h ns).bind fun _ => ?_
  cases result <;> trivial

theorem asksOnly_attempt (h : a.AsksOnly P) : (attempt a).AsksOnly P :=
  Script.AsksOnly.bind h fun _ => trivial

theorem perform_file (s : Script (Except FileError α)) (w : World) :
    (file s).perform w = ((s.run w).1.mapError .file, (s.run w).2) := by
  show Script.run (s.bind _) w = _
  rw [Script.run_bind]
  cases (s.run w).1 <;> rfl

theorem leaves_file (s : Script (Except FileError α)) (w : World) :
    (file s).leaves w = s.visits w := by
  show Script.visits (s.bind _) w = _
  rw [Script.visits_bind]
  cases (s.run w).1 <;> exact List.append_nil _

section Granted

variable {path target : String} {files : FileTree}

theorem perform_writeText {t : Text} (h : w.files.write w.cwd path t.bytes = .ok files) :
    (writeText path t).perform w = (.ok (), { w with files }) := by
  have hanswer : w.answer (.write path t.bytes) = (.ok (), { w with files }) := by
    rw [World.answer, h]
    rfl
  rw [writeText, perform_file]
  show ((w.answer (.write path t.bytes)).1.mapError _, (w.answer (.write path t.bytes)).2) = _
  rw [hanswer]
  rfl

theorem perform_writeText_error {t : Text} {e : FileError}
    (h : w.files.write w.cwd path t.bytes = .error e) :
    (writeText path t).perform w = (.error (.file e), w) := by
  have hanswer : w.answer (.write path t.bytes) = (.error e, w) := by
    rw [World.answer, h]
    rfl
  rw [writeText, perform_file]
  show ((w.answer (.write path t.bytes)).1.mapError _, (w.answer (.write path t.bytes)).2) = _
  rw [hanswer]
  rfl

theorem exists_write_of_writeText {t : Text} (h : (writeText path t).perform w = (.ok (), w')) :
    ∃ files, w.files.write w.cwd path t.bytes = .ok files ∧ w' = { w with files } := by
  cases hwrite : w.files.write w.cwd path t.bytes with
  | error e =>
    rw [perform_writeText_error hwrite] at h
    cases h
  | ok files =>
    rw [perform_writeText hwrite] at h
    cases h
    exact ⟨files, rfl, rfl⟩

theorem perform_rename (h : w.files.rename w.cwd path target = .ok files) :
    (file (Script.send (.rename path target))).perform w = (.ok (), { w with files }) := by
  have hanswer : w.answer (.rename path target) = (.ok (), { w with files }) := by
    rw [World.answer, h]
    rfl
  rw [perform_file]
  show ((w.answer (.rename path target)).1.mapError _, (w.answer (.rename path target)).2) = _
  rw [hanswer]
  rfl

theorem perform_remove (h : w.files.remove w.cwd path = .ok files) :
    (file (Script.send (.remove path))).perform w = (.ok (), { w with files }) := by
  have hanswer : w.answer (.remove path) = (.ok (), { w with files }) := by
    rw [World.answer, h]
    rfl
  rw [perform_file]
  show ((w.answer (.remove path)).1.mapError _, (w.answer (.remove path)).2) = _
  rw [hanswer]
  rfl

theorem perform_makeDirectories (h : w.files.makeDirectories w.cwd path = (.ok (), files)) :
    (file (Script.send (.makeDirectories path))).perform w = (.ok (), { w with files }) := by
  have hanswer : w.answer (.makeDirectories path) = (.ok (), { w with files }) := by
    rw [World.answer, h]
  rw [perform_file]
  show ((w.answer (.makeDirectories path)).1.mapError _,
    (w.answer (.makeDirectories path)).2) = _
  rw [hanswer]
  rfl

/-- A file that is being written holds as much as has come. -/
theorem mem_leaves_writeText {t : Text} {tree : FileTree}
    (h : tree ∈ (writeText path t).leaves w) :
    (∃ content, w.files.write w.cwd path content = .ok tree) ∨ tree = w.files := by
  rw [writeText, leaves_file] at h
  replace h : tree ∈ w.stages (.write path t.bytes) ++ [] := h
  rw [List.append_nil, World.stages, List.mem_append, List.mem_filterMap,
    List.mem_singleton] at h
  rcases h with ⟨n, _, hn⟩ | h
  · cases hwrite : w.files.write w.cwd path (t.bytes.extract 0 n) with
    | error e =>
      rw [hwrite] at hn
      cases hn
    | ok files =>
      rw [hwrite] at hn
      cases hn
      exact .inl ⟨_, hwrite⟩
  · cases hwrite : w.files.write w.cwd path t.bytes with
    | error e =>
      rw [World.answer, hwrite] at h
      exact .inr h
    | ok files =>
      rw [World.answer, hwrite] at h
      exact .inl ⟨t.bytes, by rw [hwrite, h]; rfl⟩

theorem leaves_rename (h : w.files.rename w.cwd path target = .ok files) :
    (file (Script.send (.rename path target))).leaves w = [files] := by
  rw [leaves_file]
  show [(w.answer (.rename path target)).2.files] ++ [] = _
  rw [World.answer, h]
  rfl

theorem leaves_makeDirectories (h : w.files.makeDirectories w.cwd path = (.ok (), files)) :
    (file (Script.send (.makeDirectories path))).leaves w = [files] := by
  rw [leaves_file]
  show [(w.answer (.makeDirectories path)).2.files] ++ [] = _
  rw [World.answer, h]
  rfl

theorem leaves_remove (h : w.files.remove w.cwd path = .ok files) :
    (file (Script.send (.remove path))).leaves w = [files] := by
  rw [leaves_file]
  show [(w.answer (.remove path)).2.files] ++ [] = _
  rw [World.answer, h]
  rfl

end Granted

theorem leaves_bind_ok {x : α} (h : a.perform w = (.ok x, w')) (f : α → Act β) :
    (a >>= f).leaves w = a.leaves w ++ (f x).leaves w' := by
  show Script.visits ((ExceptT.run a).bind (ExceptT.bindCont f)) w = _
  have hrun : Script.run (ExceptT.run a) w = (.ok x, w') := h
  rw [Script.visits_bind, hrun]
  rfl

theorem cwd_perform (a : Act α) (w : World) : (a.perform w).2.cwd = w.cwd :=
  Script.cwd_run _ w

theorem clock_perform (a : Act α) (w : World) : (a.perform w).2.clock = w.clock :=
  Script.clock_run _ w

theorem files_perform (h : a.AsksOnly Request.Quiet) (w : World) :
    (a.perform w).2.files = w.files := Script.files_run h w

theorem perform_alike {at_ : String → Prop} (h : a.AsksOnly (Request.Looks at_))
    (hw : w.Alike w' at_) : (a.perform w').1 = (a.perform w).1 := Script.run_alike h hw

theorem exists_perform_eq_noted {at_ : String → Prop} (h : a.AsksOnly (Request.Looks at_))
    (w : World) : ∃ ns, a.perform w = ((a.perform w).1, w.noted ns) := by
  obtain ⟨ns, hns⟩ := Script.exists_run_eq_noted h w
  exact ⟨ns, Prod.ext rfl hns⟩

/-- An act that reads a file if it is there comes to the same where the path
shows the same. -/
theorem perform_look_congr {path : String} {f : Text → Act α} {b : Act α} (hcwd : w'.cwd = w.cwd)
    (h : w'.files.shows w'.cwd path = w.files.shows w.cwd path)
    (hf : ∀ t, (f t).AsksOnly (Request.Looks fun _ => False))
    (hb : b.AsksOnly (Request.Looks fun _ => False)) :
    ((send (.isThere path) >>= fun there =>
        if there = true then readText path >>= f else b).perform w').1 =
      ((send (.isThere path) >>= fun there =>
        if there = true then readText path >>= f else b).perform w).1 := by
  have hblind : w.Alike w' fun _ => False := ⟨hcwd, fun _ hpath => hpath.elim⟩
  have hlook : ∀ v : World, (send (.isThere path)).perform v =
    (.ok (v.files.isThere v.cwd path), v) := fun _ => rfl
  have hthere : w'.files.isThere w'.cwd path = w.files.isThere w.cwd path := by
    rw [FileTree.isThere_eq, FileTree.isThere_eq, h]
  rw [perform_bind_ok (hlook w'), perform_bind_ok (hlook w), hthere]
  cases hcase : w.files.isThere w.cwd path with
  | false => exact perform_alike hb hblind
  | true =>
    rw [hcwd] at h
    have hread : (readText path).perform w' = (((readText path).perform w).1, w') := by
      rw [readText, perform_file, perform_file]
      show ((decode (w'.files.read w'.cwd path)).mapError _, w') =
        ((decode (w.files.read w.cwd path)).mapError _, w')
      rw [hcwd, FileTree.read_congr h hcase]
    have hstay : (readText path).perform w = (((readText path).perform w).1, w) := by
      rw [readText, perform_file]
      rfl
    rw [if_pos rfl]
    cases hresult : ((readText path).perform w).1 with
    | error e =>
      rw [hresult] at hread hstay
      rw [perform_bind_error hread, perform_bind_error hstay]
    | ok t =>
      rw [hresult] at hread hstay
      rw [perform_bind_ok hread, perform_bind_ok hstay]
      exact perform_alike (hf t) hblind

end Act

/-! ## Refusals -/

/-- The path at which a world refuses to change its files as it is asked to. -/
def World.refusals (w : World) : Request → List String
  | .write path content => if (w.files.write w.cwd path content).isOk then [] else [path]
  | .rename source target => if (w.files.rename w.cwd source target).isOk then [] else [target]
  | .remove path => if (w.files.remove w.cwd path).isOk then [] else [path]
  | _ => []

namespace Script

/-- The paths at which a script is refused a change of files on its way. -/
def refusals : Script α → World → List String
  | .done _, _ => []
  | .ask r next, w => w.refusals r ++ (next (w.answer r).1).refusals (w.answer r).2

theorem refusals_bind (s : Script α) (f : α → Script β) (w : World) :
    (s.bind f).refusals w = s.refusals w ++ (f (s.run w).1).refusals (s.run w).2 := by
  induction s generalizing w with
  | done a => rfl
  | ask r next ih =>
    rw [ask_bind, refusals, ih, ← List.append_assoc]
    rfl

end Script

namespace Act

/-- The paths at which an act is refused a change of files on its way. -/
def refusals (a : Act α) (w : World) : List String := Script.refusals (ExceptT.run a) w

/-- An act is refused no change at certain paths. -/
def Granted (own : String → Prop) (a : Act α) (w : World) : Prop :=
  ∀ path ∈ a.refusals w, ¬ own path

section

variable {own : String → Prop} {a : Act α} {w w' : World} {path target : String}

theorem refusals_file (s : Script (Except FileError α)) (w : World) :
    (file s).refusals w = s.refusals w := by
  show Script.refusals (s.bind _) w = _
  rw [Script.refusals_bind]
  cases (s.run w).1 <;> exact List.append_nil _

/-- An act that goes on is granted what each of its parts is granted. -/
theorem granted_bind_ok {x : α} (h : a.perform w = (.ok x, w')) (f : α → Act β) :
    (a >>= f).Granted own w ↔ a.Granted own w ∧ (f x).Granted own w' := by
  have hbind : (a >>= f).refusals w = a.refusals w ++ (f x).refusals w' := by
    show Script.refusals ((ExceptT.run a).bind (ExceptT.bindCont f)) w = _
    have hrun : Script.run (ExceptT.run a) w = (.ok x, w') := h
    rw [Script.refusals_bind, hrun]
    rfl
  unfold Granted
  rw [hbind, List.forall_mem_append]

theorem Granted.left {f : α → Act β} (h : (a >>= f).Granted own w) : a.Granted own w := by
  intro path hpath
  refine h path ?_
  show path ∈ Script.refusals ((ExceptT.run a).bind (ExceptT.bindCont f)) w
  rw [Script.refusals_bind]
  exact List.mem_append_left _ hpath

/-- What is refused at no path of the kind is granted at such a path. -/
theorem eq_ok_of_refusal {r : Except FileError FileTree} (hown : own path)
    (h : ∀ p ∈ (if r.isOk then [] else [path]), ¬ own p) : ∃ files, r = .ok files := by
  cases r with
  | ok files => exact ⟨files, rfl⟩
  | error e => exact absurd hown (h path (List.mem_singleton_self path))

theorem Granted.write {t : Text} (h : (writeText path t).Granted own w) (hown : own path) :
    ∃ files, w.files.write w.cwd path t.bytes = .ok files := by
  unfold Granted writeText at h
  rw [refusals_file] at h
  exact eq_ok_of_refusal hown fun p hp => h p (List.mem_append_left _ hp)

theorem Granted.rename (h : (file (Script.send (.rename path target))).Granted own w)
    (hown : own target) : ∃ files, w.files.rename w.cwd path target = .ok files := by
  unfold Granted at h
  rw [refusals_file] at h
  exact eq_ok_of_refusal hown fun p hp => h p (List.mem_append_left _ hp)

theorem Granted.remove (h : (file (Script.send (.remove path))).Granted own w)
    (hown : own path) : ∃ files, w.files.remove w.cwd path = .ok files := by
  unfold Granted at h
  rw [refusals_file] at h
  exact eq_ok_of_refusal hown fun p hp => h p (List.mem_append_left _ hp)

end

end Act

/-! ## No refusal -/

/-- A world makes the change of files that a request asks for, if it asks for
one. -/
def World.Complies (w : World) : Request → Prop
  | .makeDirectories path => (w.files.makeDirectories w.cwd path).1 = .ok ()
  | r => w.refusals r = []

namespace Script

/-- A script is refused no change of files on its way. -/
def Unrefused : Script α → World → Prop
  | .done _, _ => True
  | .ask r next, w => w.Complies r ∧ (next (w.answer r).1).Unrefused (w.answer r).2

theorem unrefused_bind (s : Script α) (f : α → Script β) (w : World) :
    (s.bind f).Unrefused w ↔ s.Unrefused w ∧ (f (s.run w).1).Unrefused (s.run w).2 := by
  induction s generalizing w with
  | done a => simp [Unrefused]
  | ask r next ih =>
    rw [ask_bind, Unrefused, Unrefused, ih, and_assoc]
    rfl

theorem unrefused_of_quiet {s : Script α} (h : s.AsksOnly Request.Quiet) (w : World) :
    s.Unrefused w := by
  induction s generalizing w with
  | done a => trivial
  | ask r next ih =>
    have hcomplies : w.Complies r := by
      have hquiet := h.1
      cases r with
      | write => cases hquiet
      | rename => cases hquiet
      | remove => cases hquiet
      | makeDirectories => cases hquiet
      | _ => rfl
    exact ⟨hcomplies, ih _ (h.2 _) _⟩

end Script

namespace Act

/-- An act is refused no change of files on its way. -/
def Unrefused (a : Act α) (w : World) : Prop := Script.Unrefused (ExceptT.run a) w

section

variable {a : Act α} {w w' : World} {path : String}

/-- An act that goes on is refused nothing if none of its parts is. -/
theorem unrefused_bind_ok {x : α} (h : a.perform w = (.ok x, w')) (f : α → Act β) :
    (a >>= f).Unrefused w ↔ a.Unrefused w ∧ (f x).Unrefused w' := by
  have hrun : Script.run (ExceptT.run a) w = (.ok x, w') := h
  show Script.Unrefused ((ExceptT.run a).bind (ExceptT.bindCont f)) w ↔ _
  rw [Script.unrefused_bind, hrun]
  rfl

theorem Unrefused.left {f : α → Act β} (h : (a >>= f).Unrefused w) : a.Unrefused w :=
  ((Script.unrefused_bind (ExceptT.run a) (ExceptT.bindCont f) w).mp h).1

theorem unrefused_file {s : Script (Except FileError α)} (h : (file s).Unrefused w) :
    s.Unrefused w := ((Script.unrefused_bind s _ w).mp h).1

theorem Unrefused.write {t : Text} (h : (writeText path t).Unrefused w) :
    ∃ files, w.files.write w.cwd path t.bytes = .ok files := by
  have hnone : (if (w.files.write w.cwd path t.bytes).isOk then [] else [path]) = [] :=
    (unrefused_file h).1
  cases hwrite : w.files.write w.cwd path t.bytes with
  | ok files => exact ⟨files, rfl⟩
  | error e =>
    rw [hwrite] at hnone
    cases hnone

theorem Unrefused.makeDirectories
    (h : (file (Script.send (.makeDirectories path))).Unrefused w) :
    (file (Script.send (.makeDirectories path))).perform w =
      (.ok (), { w with files := (w.files.makeDirectories w.cwd path).2 }) :=
  perform_makeDirectories (Prod.ext (unrefused_file h).1 rfl)

end

end Act

end Ninefold
