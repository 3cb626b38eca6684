import Mathlib
import Ninefold.Proofs.Quiet
import Ninefold.Proofs.View

/-!
# What a failing operation leaves as it was

An operation works out what is to be kept before it keeps anything, and changes
the catalog or the settings as the last thing that can fail. So where the
system grants a session all changes of its own files, an operation fails at most
before any file is changed or where a directory cannot be made, and a steady
session shows what it showed.
-/

namespace Ninefold

variable {α β : Type}

/-- Two worlds with the same files, in the same working directory. -/
structure World.SameFiles (w w' : World) : Prop where
  files : w'.files = w.files
  cwd : w'.cwd = w.cwd

theorem World.SameFiles.of_quiet {w w₁ w' : World} {a : Act α} {r : Except Failure α}
    (h : w.SameFiles w₁) (hq : a.AsksOnly Request.Quiet) (hrun : a.perform w₁ = (r, w')) :
    w.SameFiles w' := by
  have hfiles := Act.files_perform hq w₁
  have hcwd := Act.cwd_perform a w₁
  rw [hrun] at hfiles hcwd
  exact ⟨hfiles.trans h.files, hcwd.trans h.cwd⟩

namespace Session

/-! ## Acts that spare what there is -/

/-- An act that, where it fails, leaves what a failing operation may. -/
def Spares (s : Session) (w : World) (a : Act α) : Prop :=
  ∀ ⦃w₁⦄, w.SameFiles w₁ → a.Granted s.Own w₁ → ∀ ⦃e w'⦄, a.perform w₁ = (.error e, w') →
    s.MayLeave w w'.files

section Spares

variable {s : Session} {w : World} {a : Act α} {f : α → Act β}

theorem spares_of_quiet (hq : a.AsksOnly Request.Quiet) : s.Spares w a :=
  fun _ hw _ _ _ hrun => .inl (hw.of_quiet hq hrun).files

/-- Nothing that is looked up first does harm. -/
theorem Spares.after_quiet (hq : a.AsksOnly Request.Quiet)
    (h : ∀ x, (∃ w₁ w', w.SameFiles w₁ ∧ a.perform w₁ = (.ok x, w')) → s.Spares w (f x)) :
    s.Spares w (a >>= f) := by
  intro w₁ hw hgranted e w' hrun
  cases hfirst : a.perform w₁ with
  | mk r w₂ =>
    have hw₂ := hw.of_quiet hq hfirst
    cases r with
    | error e' =>
      rw [Act.perform_bind_error hfirst] at hrun
      cases hrun
      exact .inl hw₂.files
    | ok x =>
      rw [Act.perform_bind_ok hfirst] at hrun
      rw [Act.granted_bind_ok hfirst] at hgranted
      exact h x ⟨w₁, w₂, hw, hfirst⟩ hw₂ hgranted.2 hrun

/-- What cannot fail where it is granted does no harm after all. -/
theorem Spares.then_granted (h : s.Spares w a)
    (hf : ∀ x w₁, (f x).Granted s.Own w₁ → ∃ y, ((f x).perform w₁).1 = .ok y) :
    s.Spares w (a >>= f) := by
  intro w₁ hw hgranted e w' hrun
  cases hfirst : a.perform w₁ with
  | mk r w₂ =>
    cases r with
    | error e' =>
      have hspared := h hw hgranted.left hfirst
      rw [Act.perform_bind_error hfirst] at hrun
      cases hrun
      exact hspared
    | ok x =>
      rw [Act.perform_bind_ok hfirst] at hrun
      rw [Act.granted_bind_ok hfirst] at hgranted
      obtain ⟨y, hy⟩ := hf x w₂ hgranted.2
      rw [hrun] at hy
      cases hy

theorem Spares.then_sure (h : s.Spares w a) (hf : ∀ x w₁, ∃ y, ((f x).perform w₁).1 = .ok y) :
    s.Spares w (a >>= f) := h.then_granted fun x w₁ _ => hf x w₁

/-- What was fetched from a catalog shows that its index can be read. -/
theorem readable_of_fetch? {c : Catalog} {label : String} {w₁ w' : World} {x : Option Stored}
    (hw : w.SameFiles w₁) (hrun : (c.fetch? label).perform w₁ = (.ok x, w')) : c.Readable w := by
  cases c with
  | memory m => trivial
  | disk root =>
    obtain ⟨index, w₂, hload⟩ := Act.perform_of_bind_ok hrun
    refine ⟨index, ?_⟩
    have hsame : ((Disk.loadIndex root).perform w₁).1 = ((Disk.loadIndex root).perform w).1 :=
      Disk.loadIndex_congr hw.cwd (by rw [hw.files, hw.cwd])
    rw [← hsame, hload]

/-- What goes on from a document that is fetched goes on from a readable
index. -/
theorem Spares.after_found {g : Option Stored → Act Stored} {f : Stored → Act β} {label : String}
    (hq : (s.catalog.fetch? label >>= g).AsksOnly Request.Quiet)
    (h : s.catalog.Readable w → ∀ doc, s.Spares w (f doc)) :
    s.Spares w ((s.catalog.fetch? label >>= g) >>= f) := by
  refine Spares.after_quiet hq fun doc hrun => ?_
  obtain ⟨w₁, w', hw, hrun⟩ := hrun
  obtain ⟨x, w₂, hfetch⟩ := Act.perform_of_bind_ok hrun
  exact h (readable_of_fetch? hw hfetch) doc

theorem Spares.after_fetch {f : Stored → Act β} {label : Option String}
    (h : s.catalog.Readable w → ∀ doc, s.Spares w (f doc)) : s.Spares w (s.fetch label >>= f) :=
  Spares.after_found (s.catalog.quiet_fetch _) h

theorem Spares.after_fetchOrStart {f : Stored → Act β} {label : Option String}
    (h : s.catalog.Readable w → ∀ doc, s.Spares w (f doc)) :
    s.Spares w (s.fetchOrStart label >>= f) :=
  Spares.after_found (s.catalog.quiet_fetchOrStart _) h

/-! ## What is kept -/

/-- A session saves a document without harm if its index can be read. -/
theorem spares_save (hsteady : s.Steady w) (hindex : s.catalog.Readable w) (doc : Stored) :
    s.Spares w (s.save doc) := by
  refine Spares.then_sure ?_ fun _ _ => ⟨_, rfl⟩
  have hown : ∀ path, s.catalog.Own path → s.Own path := fun _ => Or.inr
  have hmakes : ∀ d ∈ s.catalog.directories, d ∈ s.directories := fun _ => .tail _
  have hreadable := hsteady.readable
  cases hcatalog : s.catalog with
  | memory m => exact spares_of_quiet (Act.asksOnly_pure _)
  | disk root =>
    rw [hcatalog] at hindex hown hmakes hreadable
    obtain ⟨index, hload⟩ := hindex
    refine Spares.then_sure ?_ fun _ _ => ⟨_, rfl⟩
    intro w₁ hw hgranted e w' hrun
    -- the index can be read also when the directory has been made
    obtain ⟨index, hafter⟩ := hreadable root (.head _) ⟨index, hload⟩
    have hafter : ((Disk.loadIndex root).perform { w₁ with
        files := (w₁.files.makeDirectories w₁.cwd root).2 }).1 = .ok index := by
      rw [← hafter]
      exact Disk.loadIndex_congr hw.cwd (by rw [hw.files, hw.cwd])
    obtain ⟨e', hmade⟩ := Disk.makeDirectories_of_save_error hown hafter hgranted hrun
    rw [hw.files, hw.cwd] at hmade
    exact .inr ⟨root, hmakes root (.head _), e', hmade⟩

theorem spares_deleteDocument (label : String) : s.Spares w (s.catalog.delete label) := by
  have hown : ∀ path, s.catalog.Own path → s.Own path := fun _ => Or.inr
  cases hcatalog : s.catalog with
  | memory m =>
    exact spares_of_quiet ((Act.quiet_ofExcept _).bind fun _ => Act.asksOnly_pure _)
  | disk root =>
    rw [hcatalog] at hown
    refine Spares.then_sure ?_ fun _ _ => ⟨_, rfl⟩
    intro w₁ hw hgranted e w' hrun
    exact .inl ((Disk.files_of_delete_error hown hgranted hrun).trans hw.files)

/-- Nothing is kept of a file that is not granted. -/
theorem spares_writeText (path : String) (t : Text) : s.Spares w (Act.writeText path t) := by
  intro w₁ hw _ e w' hrun
  cases hwrite : w₁.files.write w₁.cwd path t.bytes with
  | ok files =>
    rw [Act.perform_writeText hwrite] at hrun
    cases hrun
  | error e' =>
    rw [Act.perform_writeText_error hwrite] at hrun
    cases hrun
    exact .inl hw.files

theorem spares_makeRoot {d : String} (hd : d ∈ s.directories) : s.Spares w (Disk.makeRoot d) := by
  intro w₁ hw _ e w' hrun
  obtain ⟨e', hmade⟩ := Disk.makeDirectories_of_makeRoot_error hrun
  rw [hw.files, hw.cwd] at hmade
  exact .inr ⟨d, hd, e', hmade⟩

theorem spares_saveSettings (settings : Settings) : s.Spares w (settings.save s.root) := by
  rw [Settings.save_eq]
  refine Spares.then_granted (spares_makeRoot (.head _)) fun _ w₁ hgranted => ?_
  obtain ⟨files, hwrite⟩ := hgranted.write (.inl rfl)
  exact ⟨(), congrArg Prod.fst (Act.perform_writeText hwrite)⟩

/-! ## Operations -/

theorem spares_init : s.Spares w s.init := by
  refine Spares.then_sure ?_ fun _ _ => ⟨_, rfl⟩
  intro w₁ hw _ e w' hrun
  obtain ⟨e', hmade⟩ := Disk.makeDirectories_of_perform_error hrun
  rw [hw.files, hw.cwd] at hmade
  exact .inr ⟨s.root, .head _, e', hmade⟩

theorem spares_select (label address : Option String) : s.Spares w (s.select label address) :=
  spares_of_quiet (s.quiet_select label address)

theorem spares_list (label : Option String) : s.Spares w (s.list label) :=
  spares_of_quiet <| (s.catalog.quiet_fetch _).bind fun doc =>
    (doc.document.quiet_noteReading 1).bind fun _ => Act.asksOnly_pure _

theorem spares_contents (label : Option String) : s.Spares w (s.contents label) :=
  spares_of_quiet <| (s.catalog.quiet_fetch _).bind fun doc =>
    (doc.document.quiet_noteReading 1).bind fun _ => Act.asksOnly_pure _

theorem spares_raw (label : Option String) : s.Spares w (s.raw label) :=
  spares_of_quiet <| (s.catalog.quiet_fetch _).bind fun _ => Act.asksOnly_pure _

theorem spares_documents : s.Spares w s.documents :=
  spares_of_quiet <| s.catalog.quiet_list.bind fun _ => Act.asksOnly_pure _

theorem spares_path (label : Option String) : s.Spares w (s.path label) :=
  spares_of_quiet (s.catalog.quiet_path _)

theorem spares_exportFile (label : Option String) (path : String) :
    s.Spares w (s.exportFile label path) :=
  Spares.after_quiet (s.catalog.quiet_fetch _) fun doc _ =>
    (spares_writeText path doc.raw).then_sure fun _ _ => ⟨_, rfl⟩

theorem spares_pull (label address : Option String) (path : String) :
    s.Spares w (s.pull label address path) := by
  refine Spares.after_quiet (quiet_requested address) fun request _ => ?_
  refine Spares.after_quiet (s.catalog.quiet_fetch _) fun doc _ => ?_
  refine Spares.after_quiet (doc.document.quiet_noteReading 1) fun _ _ => ?_
  exact (spares_writeText path _).then_sure fun _ _ => ⟨_, rfl⟩

theorem spares_exportJson (label path : Option String) : s.Spares w (s.exportJson label path) := by
  refine Spares.after_quiet (s.catalog.quiet_fetch _) fun doc _ => ?_
  refine Spares.after_quiet (doc.document.quiet_noteReading 1) fun _ _ => ?_
  cases path with
  | none => exact spares_of_quiet (Act.asksOnly_pure _)
  | some p => exact (spares_writeText p _).then_sure fun _ _ => ⟨_, rfl⟩

theorem spares_remove (label : Option String) : s.Spares w (s.remove label) :=
  (spares_deleteDocument _).then_sure fun _ _ => ⟨_, rfl⟩

theorem spares_change (after : Except Settings.Fault Settings) (message : Settings → String) :
    s.Spares w (s.change after message) :=
  Spares.after_quiet (Act.quiet_ofExcept _) fun settings _ =>
    (spares_saveSettings settings).then_sure fun _ _ => ⟨_, rfl⟩

theorem spares_configure (request : SettingsRequest) : s.Spares w (s.configure request) := by
  refine Spares.after_quiet (Settings.quiet_load s.root) fun before _ => ?_
  cases request with
  | showAll => exact spares_of_quiet ((Act.asksOnly_pure _).bind fun _ => Act.asksOnly_pure _)
  | showKey key => exact spares_of_quiet ((Act.asksOnly_pure _).bind fun _ => Act.asksOnly_pure _)
  | setDefaultLabel value => exact (spares_change _ _).then_sure fun _ _ => ⟨_, rfl⟩
  | setPreviewWidth value => exact (spares_change _ _).then_sure fun _ _ => ⟨_, rfl⟩

section Saving

variable (hsteady : s.Steady w)

include hsteady

theorem spares_goTo (label : Option String) (target : Coordinate) :
    s.Spares w (s.goTo label target) :=
  Spares.after_fetchOrStart fun hindex doc =>
    (spares_save hsteady hindex (doc.moveTo target)).then_sure fun _ _ => ⟨_, rfl⟩

theorem spares_goToAddress (label : Option String) (address : String) :
    s.Spares w (s.goToAddress label address) :=
  Spares.after_quiet (Act.asksOnly_notes (fun _ => trivial) _) fun _ _ =>
    spares_goTo hsteady label _

theorem spares_jump (label : Option String) (axis : String) (value : Nat) :
    s.Spares w (s.jump label axis value) := by
  refine Spares.after_quiet (quiet_axisNamed axis) fun a _ => ?_
  refine Spares.after_quiet (s.quiet_standing label) fun here _ => ?_
  refine Spares.after_quiet (Act.asksOnly_notes (fun _ => trivial) _) fun _ _ => ?_
  exact spares_goTo hsteady label _

theorem spares_step (label : Option String) (axis : String) (forward : Bool) :
    s.Spares w (s.step label axis forward) := by
  refine Spares.after_quiet (quiet_axisNamed axis) fun a _ => ?_
  refine Spares.after_quiet (s.quiet_standing label) fun here _ => ?_
  exact spares_goTo hsteady label _

/-- A document is saved with the time that it is changed at. -/
theorem spares_saveNow (hindex : s.catalog.Readable w) (changed : Instant → Stored)
    (reply : Reply) :
    s.Spares w (do
      let s ← s.save (changed (← Act.send .now))
      return (s, reply)) :=
  Spares.after_quiet (Act.asksOnly_send (r := .now) trivial) fun now _ =>
    (spares_save hsteady hindex (changed now)).then_sure fun _ _ => ⟨_, rfl⟩

/-- An edit that is refused is not saved. -/
theorem spares_saveEdit (hindex : s.catalog.Readable w) (doc : Stored) (times : Nat)
    (edit : Except Char Document) (target : Coordinate) (reply : Reply) :
    s.Spares w (do
      let after ← Act.edited edit
      doc.document.noteReading times
      let s ← s.save ((doc.withText after.raw (← Act.send .now)).moveTo target)
      return (s, reply)) := by
  refine Spares.after_quiet (Act.quiet_edited _) fun after _ => ?_
  refine Spares.after_quiet (doc.document.quiet_noteReading times) fun _ _ => ?_
  exact spares_saveNow hsteady hindex (fun now => (doc.withText after.raw now).moveTo target) _

theorem spares_insert (label address : Option String) (t : Text) :
    s.Spares w (s.insert .ordinary label address t) :=
  Spares.after_quiet (quiet_requested address) fun _ _ =>
    Spares.after_fetchOrStart fun hindex doc => spares_saveEdit hsteady hindex doc 2 _ _ _

theorem spares_update (label address : Option String) (t : Text) :
    s.Spares w (s.update .ordinary label address t) :=
  Spares.after_quiet (quiet_requested address) fun _ _ =>
    Spares.after_fetchOrStart fun hindex doc => spares_saveEdit hsteady hindex doc 1 _ _ _

theorem spares_push (label address : Option String) (path : String) :
    s.Spares w (s.push .ordinary label address path) :=
  Spares.after_quiet (quiet_requested address) fun _ _ =>
    Spares.after_quiet (Act.quiet_readSource path) fun _ _ =>
      Spares.after_fetchOrStart fun hindex doc => spares_saveEdit hsteady hindex doc 1 _ _ _

theorem spares_delete (label address : Option String) :
    s.Spares w (s.delete .ordinary label address) := by
  refine Spares.after_quiet (quiet_requested address) fun request _ => ?_
  refine Spares.after_fetch fun hindex doc => ?_
  refine Spares.after_quiet (doc.document.quiet_noteReading 2) fun _ _ => ?_
  exact spares_saveNow hsteady hindex _ _

theorem spares_normalize (label : Option String) : s.Spares w (s.normalize label) := by
  refine Spares.after_fetch fun hindex doc => ?_
  refine Spares.after_quiet (doc.document.quiet_noteReading 1) fun _ _ => ?_
  split
  · exact spares_of_quiet (Act.asksOnly_pure _)
  · exact spares_saveNow hsteady hindex _ _

theorem spares_importFile (label : Option String) (path : String) :
    s.Spares w (s.importFile label path) := by
  refine Spares.after_quiet (Act.quiet_readSource path) fun t _ => ?_
  refine Spares.after_fetchOrStart fun hindex doc => ?_
  exact spares_saveNow hsteady hindex _ _

/-- The files of a directory are placed, all of them, before anything is
saved. -/
theorem spares_slurp (label address : Option String) (directory : String) :
    s.Spares w (s.slurp .ordinary label address directory) := by
  refine Spares.after_quiet (quiet_requested address) fun request _ => ?_
  refine Spares.after_quiet (quiet_namesIn directory) fun listed _ => ?_
  refine Spares.after_quiet (quiet_filesOf directory listed) fun names _ => ?_
  refine Spares.after_fetchOrStart fun hindex doc => ?_
  refine Spares.after_quiet (Filling.quiet_takeFiles _ directory names _) fun filled _ => ?_
  exact spares_saveNow hsteady hindex _ _

theorem spares_call (c : Call) : s.Spares w (s.call c) := by
  cases c with
  | init => exact spares_init
  | select label address => exact spares_select label address
  | insert label address text => exact spares_insert hsteady label address text
  | update label address text => exact spares_update hsteady label address text
  | delete label address => exact spares_delete hsteady label address
  | list label => exact spares_list label
  | goTo label address => exact spares_goToAddress hsteady label address
  | jump label axis value => exact spares_jump hsteady label axis value
  | step label axis forward => exact spares_step hsteady label axis forward
  | raw label => exact spares_raw label
  | normalize label => exact spares_normalize hsteady label
  | importFile label path => exact spares_importFile hsteady label path
  | exportFile label path => exact spares_exportFile label path
  | push label address path => exact spares_push hsteady label address path
  | pull label address path => exact spares_pull label address path
  | slurp label address directory => exact spares_slurp hsteady label address directory
  | exportJson label path => exact spares_exportJson label path
  | contents label => exact spares_contents label
  | documents => exact spares_documents
  | remove label => exact spares_remove label
  | configure request => exact spares_configure request

theorem spares_meet (d : Demand) : s.Spares w (s.meet d) := by
  cases d with
  | call c => exact (spares_call hsteady c).then_sure fun _ _ => ⟨_, rfl⟩
  | path label => exact (spares_path label).then_sure fun _ _ => ⟨_, rfl⟩

end Saving

/-! ## A demand that fails -/

/-- **A demand that fails changes nothing that can be seen**, if no change of
the session's own files is refused. -/
theorem view_goOn_of_error {d : Demand} {e : Failure} (hsteady : s.Steady w)
    (hgranted : (s.meet d).Granted s.Own w) (hfails : ((s.meet d).perform w).1 = .error e) :
    (s.goOn d w).1.view (s.goOn d w).2 = s.view w := by
  have hrun : (s.meet d).perform w = (.error e, ((s.meet d).perform w).2) := Prod.ext hfails rfl
  have hleft : s.MayLeave w ((s.meet d).perform w).2.files :=
    spares_meet hsteady d ⟨rfl, rfl⟩ hgranted hrun
  have hgoOn : s.goOn d w = (s, ((s.meet d).perform w).2) := by
    unfold goOn
    rw [hrun]
  rw [hgoOn]
  exact view_of_mayLeave hsteady hleft (Act.cwd_perform _ w)

end Spares

/-- A session over a store that is not there yet. -/
def newHome : Session := ⟨.disk "home", "home", .standard⟩

/-- A scroll break put into a scroll. -/
def insertBreak : Demand := .call (.insert none none ['\x17'])

/-- A text that is refused begins no document. -/
theorem view_goOn_insertBreak :
    newHome.Steady .bare ∧ (newHome.meet insertBreak).Granted newHome.Own .bare ∧
      ((newHome.meet insertBreak).perform .bare).1 = .error (.reserved '\x17') ∧
      (newHome.goOn insertBreak .bare).1.view (newHome.goOn insertBreak .bare).2 =
        newHome.view .bare := by
  have hsteady : newHome.Steady .bare :=
    steady_of_vacant ⟨rfl, rfl, by decide⟩ (by decide)
  have hgranted : (newHome.meet insertBreak).Granted newHome.Own .bare := by
    have hnone : (newHome.meet insertBreak).refusals .bare = [] := rfl
    intro path hpath
    rw [hnone] at hpath
    cases hpath
  have hfails : ((newHome.meet insertBreak).perform .bare).1 = .error (.reserved '\x17') := rfl
  exact ⟨hsteady, hgranted, hfails, view_goOn_of_error hsteady hgranted hfails⟩

/-! ## What may come to light -/

/-- A session over a store whose path leads through a directory and out of it
again. -/
def detour : Session := ⟨.disk "a/../b", "a/../b", .standard⟩

/-- A world in which that path leads nowhere yet, while there is a malformed
index behind it. -/
def hiddenIndex : World :=
  ⟨⟨.ofList [(["b"], .directory), (["b", "data.json"], .file "\x7b".toUTF8)]⟩, [], default, 0,
    .empty,
    [], []⟩

/-- A letter put into a scroll. -/
def insertLetter : Demand := .call (.insert none none ['x'])

set_option maxRecDepth 10000 in
/-- A session that is not steady may show something else after a demand that
fails: the directory is made, and the index behind it is found. -/
theorem view_goOn_ne_of_detour :
    ((openAt (.disk "a/../b") "a/../b").perform hiddenIndex).1 = .ok detour ∧
      (detour.meet insertLetter).refusals hiddenIndex = [] ∧
      ((detour.meet insertLetter).perform hiddenIndex).1 = .error .malformedJson ∧
      (detour.goOn insertLetter hiddenIndex).1.view (detour.goOn insertLetter hiddenIndex).2 ≠
        detour.view hiddenIndex := by
  refine ⟨rfl, rfl, rfl, fun hview => ?_⟩
  have hbefore : (detour.view hiddenIndex).records = .ok [] := rfl
  have hafter : ((detour.goOn insertLetter hiddenIndex).1.view
      (detour.goOn insertLetter hiddenIndex).2).records = .error .malformedJson := rfl
  rw [hview, hbefore] at hafter
  cases hafter

/-- A session over a store whose directory cannot be made, with its settings in
another one. -/
def twoRoots : Session := ⟨.disk "a/../f", "a/../b", .standard⟩

/-- A world in which neither path leads anywhere yet, while there are settings
behind the one and a file in the way of the other. -/
def hiddenSettings : World :=
  ⟨⟨.ofList [(["b"], .directory), (["b", "config.json"], .file "\x7b\x7d".toUTF8),
    (["f"], .file .empty)]⟩, [], default, 0, .empty, [], []⟩

set_option maxRecDepth 10000 in
/-- A session with two directories that is not steady may show other settings
after a demand that fails: one directory cannot be made, but the other is found
on the way. -/
theorem view_goOn_ne_of_twoRoots :
    ((openAt (.disk "a/../f") "a/../b").perform hiddenSettings).1 = .ok twoRoots ∧
      (twoRoots.meet insertLetter).refusals hiddenSettings = [] ∧
      ((twoRoots.meet insertLetter).perform hiddenSettings).1 = .error (.file .present) ∧
      (twoRoots.goOn insertLetter hiddenSettings).1.view
          (twoRoots.goOn insertLetter hiddenSettings).2 ≠ twoRoots.view hiddenSettings := by
  refine ⟨rfl, rfl, rfl, fun hview => ?_⟩
  have hbefore : (twoRoots.view hiddenSettings).settingsFile = none := rfl
  have hafter : ((twoRoots.goOn insertLetter hiddenSettings).1.view
      (twoRoots.goOn insertLetter hiddenSettings).2).settingsFile =
        some (.file "\x7b\x7d".toUTF8) := rfl
  rw [hview, hbefore] at hafter
  cases hafter

end Session

end Ninefold
