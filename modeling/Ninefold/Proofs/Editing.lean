import Mathlib
import Ninefold.Proofs.Piping
import Ninefold.Proofs.Scratch

/-!
# A scroll edited in an editor

An edit finds the text of a scroll, writes it to a scratch file, starts the
editor on that, and reads it again without its last line end. The editor may be
any act on the scratch file here, of which the user's is one.

Where the editor leaves the scratch file as it was, a text that ends in no line
feed is found unchanged, and the session shows what the editor left. A text
that ends in a line feed is taken for one that lost it.
-/

namespace Ninefold

variable {env : Environment} {w w₀ w₁ w₂ : World} {t : Text} {path : String}

/-! ## The editor -/

namespace Editor

/-- Where a scratch file was written, it is under its name in the directory for
scratch files. -/
theorem of_perform_scratch {initial : Text}
    (h : (scratch env initial).perform w = (.ok path, w₁)) :
    ∃ id files, path = Path.child (scratchDirectory env) (scratchName id) ∧
      w.files.write w.cwd path initial.bytes = .ok files ∧
      w₁ = { w with files, ids := w.ids + 1 } := by
  obtain ⟨id, hid⟩ : ∃ id : Ident,
      (Act.send .newId).perform w = (.ok id, { w with ids := w.ids + 1 }) := ⟨_, rfl⟩
  rw [scratch, Act.perform_bind_ok hid] at h
  cases hwrite : w.files.write w.cwd (Path.child (scratchDirectory env) (scratchName id))
      initial.bytes with
  | ok files =>
    have hwritten := Act.perform_writeText (w := { w with ids := w.ids + 1 }) hwrite
    rw [Act.perform_bind_ok hwritten] at h
    cases h
    exact ⟨id, files, rfl, hwrite, rfl⟩
  | error e =>
    have hrefused := Act.perform_writeText_error (w := { w with ids := w.ids + 1 }) hwrite
    rw [Act.perform_bind_error hrefused] at h
    cases h

/-- What an editor leaves in the scratch file is the new text, without its last
line end. -/
theorem perform_editBy {start : String → Act Unit} {initial : Text}
    (hscratch : (scratch env initial).perform w = (.ok path, w₁))
    (hstart : (start path).perform w₁ = (.ok (), w₂))
    (hleft : w₂.files.read w₂.cwd path = .ok t.bytes) :
    (editBy env start initial).perform w = (.ok t.dropLineEnd, (w₂.answer (.remove path)).2) := by
  have hread : (Act.readText path).perform w₂ = (.ok t, w₂) := Act.perform_readText hleft
  have hopened : (Act.attempt (start path >>= fun _ => Act.readText path)).perform w₁ =
      (.ok (.ok t), w₂) := by
    rw [Act.perform_attempt, Act.perform_bind_ok hstart, hread]
  rw [editBy, Act.perform_bind_ok hscratch, Act.perform_bind_ok hopened]
  rfl

end Editor

namespace Disk

variable {s : Site} {f : Folder} {m : Memory}

theorem Stands.has (h : Stands s w m) (hm : m ≠ .empty) : ∃ f, s.Has w.files f ∧ f.Holds m := by
  obtain ⟨f, hserves | ⟨-, rfl⟩, hholds⟩ := h.folder
  · exact ⟨f, hserves, hholds⟩
  · exact absurd hholds.eq_empty hm

/-- In the directory of a store a scratch file can be written where no directory
is in its way, and once it is removed again the store stands for what it stood
for. -/
theorem Stands.exists_scratch (h : Stands s w m) (hm : m ≠ .empty)
    (hdirectory : Editor.scratchDirectory env = s.root)
    (hfree : ∀ id, w.files.hasDirectory (s.place ++ [Editor.scratchName id]) = false) (t : Text) :
    ∃ path w₁, (Editor.scratch env t).perform w = (.ok path, w₁) ∧ w₁.clock = w.clock ∧
      w₁.files.read w₁.cwd path = .ok t.bytes ∧ Stands s (w₁.answer (.remove path)).2 m := by
  obtain ⟨f, hhas, hholds⟩ := h.has hm
  obtain ⟨name, hname⟩ : ∃ name, name = Editor.scratchName (.ofNat w.ids) := ⟨_, rfl⟩
  have hn : Path.Plain name := hname ▸ Editor.plain_scratchName _
  have hother : ¬ StoreName name := fun hn => Editor.ne_scratchName_of_storeName hn _ hname
  have hdir : w.files.hasDirectory (s.place ++ [name]) = false := hname ▸ hfree _
  obtain ⟨files, hfiles⟩ : ∃ files, files = w.files.set (s.place ++ [name]) (.file t.bytes) :=
    ⟨_, rfl⟩
  have hwritten : s.Has files f := hfiles ▸ hhas.set_other hdir hother t.bytes
  have hentry : files.at? (s.place ++ [name]) = some (.file t.bytes) := by
    rw [hfiles, FileTree.at?_set (by simp), if_pos rfl]
  have hfile := FileTree.hasDirectory_of_file hentry
  have hwrite : w.files.write w.cwd (Path.child s.root name) t.bytes = .ok files := by
    rw [h.cwd, hfiles]
    exact hhas.houses.write hn hdir t.bytes
  have hread : files.read w.cwd (Path.child s.root name) = .ok t.bytes := by
    rw [h.cwd]
    exact hwritten.houses.read_file hn hentry
  have hremove : files.remove w.cwd (Path.child s.root name) =
      .ok (files.unset (s.place ++ [name])) := by
    rw [h.cwd]
    exact hwritten.houses.remove hn hentry
  refine ⟨Path.child s.root name, { w with files, ids := w.ids + 1 }, ?_, rfl, hread, ?_⟩
  · have hsent : (Act.send .newId).perform w = (.ok (.ofNat w.ids), { w with ids := w.ids + 1 }) :=
      rfl
    rw [Editor.scratch, Act.perform_bind_ok hsent, hdirectory, ← hname]
    exact Act.perform_bind_ok (Act.perform_writeText (w := { w with ids := w.ids + 1 }) hwrite) _
  · rw [World.answer, hremove]
    exact ⟨h.cwd, h.filed, f, .inl (hwritten.unset_other hfile hother), hholds⟩

end Disk

/-! ## The command -/

namespace Terminal

variable {s : Session} {label address : Option String} {target : String} {initial : Text}
  {start : String → Act Unit}

theorem quiet_opening (s : Session) (label address : Option String) :
    (opening s label address).AsksOnly Request.Quiet := by
  refine (Act.asksOnly_attempt (s.quiet_select label address)).bind fun outcome => ?_
  cases outcome with
  | ok found => exact Act.asksOnly_pure _
  | error e => cases e <;> trivial

/-- An edit goes by what the editor leaves in the scratch file, without its last
line end. -/
theorem perform_editScrollBy
    (hopening : (opening s label address).perform w = (.ok (some (target, initial)), w₀))
    (hscratch : (Editor.scratch env initial).perform w₀ = (.ok path, w₁))
    (hstart : (start path).perform w₁ = (.ok (), w₂))
    (hleft : w₂.files.read w₂.cwd path = .ok t.bytes) :
    (editScrollBy env start s label address).perform w =
      (if t.dropLineEnd = initial then (pure (line "No changes.") : Act String)
        else messagesOf env s (.update label (some target) t.dropLineEnd)).perform
        (w₂.answer (.remove path)).2 := by
  rw [editScrollBy, Act.perform_bind_ok hopening]
  exact Act.perform_bind_ok (Editor.perform_editBy hscratch hstart hleft) _

/-- **An edit that changes nothing.** Where the editor leaves the scratch file as
it was written, a text that ends in no line feed is found unchanged. The session
showed all the while what it had shown, and after the edit what the editor
left. -/
theorem view_editScrollBy_unchanged
    (hopening : (opening s label address).perform w = (.ok (some (target, initial)), w₀))
    (hscratch : (Editor.scratch env initial).perform w₀ = (.ok path, w₁))
    (hstart : (start path).perform w₁ = (.ok (), w₂))
    (hleft : w₂.files.read w₂.cwd path = .ok initial.bytes)
    (hend : initial.getLast? ≠ some '\n') :
    ∃ w', (editScrollBy env start s label address).perform w = (.ok (line "No changes."), w') ∧
      s.view w₁ = s.view w ∧ s.view w' = s.view w₂ := by
  have hrun := perform_editScrollBy hopening hscratch hstart hleft
  rw [if_pos (Text.dropLineEnd_eq_self_iff.mpr hend)] at hrun
  obtain ⟨id, files, rfl, hwrite, rfl⟩ := Editor.of_perform_scratch hscratch
  have hquiet : w.SameFiles w₀ :=
    World.SameFiles.of_quiet ⟨rfl, rfl⟩ (quiet_opening s label address) hopening
  have hopened : s.view { w₀ with ids := w₀.ids + 1 } = s.view w :=
    s.view_of_sameFiles ⟨hquiet.files, hquiet.cwd⟩
  have hwritten : s.view { w₀ with files, ids := w₀.ids + 1 } =
      s.view { w₀ with ids := w₀.ids + 1 } :=
    Session.view_of_write (w := { w₀ with ids := w₀.ids + 1 }) hwrite
  exact ⟨_, hrun, hwritten.trans hopened, Session.view_answer_remove⟩

/-! ### An editor that does nothing -/

/-- What is found at an address is opened there. -/
theorem perform_opening_found {doc : Stored} {address : String}
    (hfetch : ((s.fetch label).perform w).1 = .ok doc)
    (hselect : doc.document.select (.ofAddress address) = some t) :
    ∃ w₀, (opening s label (some address)).perform w =
        (.ok (some ((Coordinate.ofAddress address).address, t)), w₀) ∧
      w.SameFiles w₀ ∧ w₀.clock = w.clock := by
  obtain ⟨w₀, hrun, hsame⟩ := Session.perform_select_found hfetch address hselect
  have hclock := Act.clock_perform (s.select label (some address)) w
  rw [hrun] at hclock
  have hattempt := Act.perform_attempt (s.select label (some address)) w
  rw [hrun] at hattempt
  exact ⟨w₀, Act.perform_bind_ok hattempt _, hsame, hclock⟩

/-- An environment with an editor that does nothing, and with scratch files in
the directory of the store. -/
def idleEditor : Environment := fun name =>
  if name = "EDITOR" then some "true" else if name = "TMPDIR" then some "home" else none

theorem perform_start_idle (path : String) (w : World) :
    (Editor.start idleEditor path).perform w = (.ok (), w) := rfl

/-- No directory is named as a scratch file where all have another name. -/
theorem hasDirectory_scratch (hdirs : ∀ q ∈ w.files.entries.keys,
      w.files.hasDirectory q = true → q.getLast? = some "home") (p : Place) (id : Ident) :
    w.files.hasDirectory (p ++ [Editor.scratchName id]) = false := by
  by_contra hdir
  replace hdir : w.files.hasDirectory (p ++ [Editor.scratchName id]) = true := by simpa using hdir
  have hentry := FileTree.hasDirectory_iff.mp hdir
  have hlast := hdirs _ (FileTree.mem_keys_of_at? (by simp) hentry) hdir
  rw [List.getLast?_concat] at hlast
  exact Editor.ne_scratchName (by decide) id (Option.some.inj hlast).symm

/-- That editor leaves the scratch file of the one scroll of a store as it was
written. -/
theorem exists_idle_mailbox (hselect : (postcard t).document.select .origin = some t)
    (hdirs : ∀ q ∈ (mailbox t).files.entries.keys,
      (mailbox t).files.hasDirectory q = true → q.getLast? = some "home") :
    ∃ p w₀ path w₁,
      Disk.Stands ⟨"home", (mailbox t).cwd, p⟩ (mailbox t) (Memory.save .empty (postcard t)) ∧
      (opening .newHome none (some Coordinate.origin.address)).perform (mailbox t) =
        (.ok (some (Coordinate.origin.address, t)), w₀) ∧
      (Editor.scratch idleEditor t).perform w₀ = (.ok path, w₁) ∧
      (Editor.start idleEditor path).perform w₁ = (.ok (), w₁) ∧
      w₁.files.read w₁.cwd path = .ok t.bytes ∧ w₁.clock.Kept ∧
      Disk.Stands ⟨"home", (mailbox t).cwd, p⟩ (w₁.answer (.remove path)).2
        (Memory.save .empty (postcard t)) := by
  obtain ⟨p, hstands⟩ := stands_mailbox t
  have hplace : Coordinate.ofAddress Coordinate.origin.address = .origin :=
    Coordinate.ofAddress_address Coordinate.addressable_origin
  obtain ⟨w₀, hopening, hsame, hclock⟩ := perform_opening_found (fetch_mailbox t)
    (hplace.symm ▸ hselect)
  rw [hplace] at hopening
  have hsome : Memory.save .empty (postcard t) ≠ .empty := by
    intro hempty
    have hfetch := Memory.fetch?_save .empty (postcard t) "holiday"
    rw [hempty] at hfetch
    cases hfetch
  have hdirectory : Editor.scratchDirectory idleEditor = "home" := rfl
  obtain ⟨path, w₁, hscratch, hclock₁, hread, hafter⟩ :=
    (hstands.of_files hsame.cwd hsame.files).exists_scratch hsome hdirectory
      (fun id => hsame.files ▸ hasDirectory_scratch hdirs p id) t
  exact ⟨p, w₀, path, w₁, hstands, hopening, hscratch, perform_start_idle path w₁, hread,
    hclock₁ ▸ hclock ▸ kept_clock_mailbox t, hafter⟩

/-- A letter is left as it was by an editor that does nothing. -/
theorem view_editScrollBy_letter :
    ∃ p w₀ path w₁,
      Disk.Stands ⟨"home", (mailbox ['a']).cwd, p⟩ (mailbox ['a'])
        (Memory.save .empty (postcard ['a'])) ∧
      (opening .newHome none (some Coordinate.origin.address)).perform (mailbox ['a']) =
        (.ok (some (Coordinate.origin.address, ['a'])), w₀) ∧
      (Editor.scratch idleEditor ['a']).perform w₀ = (.ok path, w₁) ∧
      (Editor.start idleEditor path).perform w₁ = (.ok (), w₁) ∧
      w₁.files.read w₁.cwd path = .ok (Text.bytes ['a']) ∧
      ∃ w', (carryOut idleEditor .newHome none (.edit (some Coordinate.origin.address))).perform
          (mailbox ['a']) = (.ok (line "No changes."), w') ∧
        Session.newHome.view w' = Session.newHome.view (mailbox ['a']) := by
  obtain ⟨p, w₀, path, w₁, hstands, hopening, hscratch, hstart, hleft, -⟩ :=
    exists_idle_mailbox (t := ['a']) (by decide) (by rw [mailbox_eq]; decide +kernel)
  obtain ⟨w', hrun, hbefore, hafter⟩ :=
    view_editScrollBy_unchanged hopening hscratch hstart hleft (by decide)
  exact ⟨p, w₀, path, w₁, hstands, hopening, hscratch, hstart, hleft, w', hrun,
    hafter.trans hbefore⟩

/-- A line feed at the end of a scroll is gone after an editor that does
nothing. -/
theorem editScrollBy_loses_lineFeed :
    ∃ p w₀ path w₁,
      Disk.Stands ⟨"home", (mailbox ['a', '\n']).cwd, p⟩ (mailbox ['a', '\n'])
        (Memory.save .empty (postcard ['a', '\n'])) ∧
      (opening .newHome none (some Coordinate.origin.address)).perform (mailbox ['a', '\n']) =
        (.ok (some (Coordinate.origin.address, ['a', '\n'])), w₀) ∧
      (Editor.scratch idleEditor ['a', '\n']).perform w₀ = (.ok path, w₁) ∧
      (Editor.start idleEditor path).perform w₁ = (.ok (), w₁) ∧
      w₁.files.read w₁.cwd path = .ok (Text.bytes ['a', '\n']) ∧
      ∃ message w' doc,
        (carryOut idleEditor .newHome none (.edit (some Coordinate.origin.address))).perform
          (mailbox ['a', '\n']) = (.ok message, w') ∧
        ((Session.newHome.fetch none).perform w').1 = .ok doc ∧
        (postcard ['a', '\n']).raw = ['a', '\n'] ∧ doc.raw = ['a'] := by
  obtain ⟨p, w₀, path, w₁, hstands, hopening, hscratch, hstart, hleft, hclock, hafter⟩ :=
    exists_idle_mailbox (t := ['a', '\n']) (by decide) (by rw [mailbox_eq]; decide +kernel)
  have hrun := perform_editScrollBy hopening hscratch hstart hleft
  rw [if_neg (by decide)] at hrun
  obtain ⟨w₂, hw₂⟩ : ∃ w₂, w₂ = (w₁.answer (.remove path)).2 := ⟨_, rfl⟩
  have hclock₂ : w₂.clock.Kept := by
    rw [hw₂, World.clock_answer]
    exact hclock
  rw [← hw₂] at hrun hafter
  have hcwd : w₂.cwd = (mailbox ['a', '\n']).cwd := hafter.cwd
  rw [← hcwd] at hafter
  have hfetch : ((Session.newHome.fetch none).perform w₂).1 = .ok (postcard ['a', '\n']) :=
    hafter.fetch_save rfl rfl Coordinate.addressable_origin
  obtain ⟨w', hupdate, -, hupdated⟩ := hafter.perform_update hclock₂ rfl hfetch
    Coordinate.origin.address (t := ['a']) (by decide)
  have hcalled : (Session.newHome.call
      (.update none (some Coordinate.origin.address) ['a'])).perform w₂ = _ := hupdate
  refine ⟨p, w₀, path, w₁, hstands, hopening, hscratch, hstart, hleft, _, w', _,
    hrun.trans (Act.perform_bind_ok hcalled _), hupdated, rfl, ?_⟩
  rw [Stored.raw_updated, Coordinate.ofAddress_address Coordinate.addressable_origin]
  decide +kernel

end Terminal

end Ninefold
