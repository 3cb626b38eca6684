import Ninefold.Proofs.Memory

/-!
# Sessions keep ledgers

A session over a catalog in memory does with its texts what the ledger of the
same edits does with its maps. From a sound catalog every edit comes out as the
ledger says, be it with a new state or with a failure, and leaves a sound
catalog; so a whole run of edits does.
-/

namespace Ninefold

open Act

/-! ## When outcomes agree -/

/-- A session whose documents, all kept in memory, are those of a ledger. -/
structure Session.Shows (s : Session) (settings : Settings) (ledger : Ledger) : Prop where
  settings : s.settings = settings
  catalog : ∃ m : Memory, s.catalog = .memory m ∧ m.Sound ∧ m.ledger = ledger

/-- An outcome of a session and one of a ledger agree: both are failures, and
the same, or the new session shows the new ledger. -/
def Agrees (settings : Settings) :
    Except Failure (Session × Reply) → Except Failure Ledger → Prop
  | .ok (s, _), .ok ledger => s.Shows settings ledger
  | .error e, .error e' => e = e'
  | _, _ => False

/-! ## The parts of an edit -/

section Parts

variable {m : Memory} {root : String} {settings : Settings}

/-- An address that is asked for leaves notes at most. -/
theorem exists_perform_requested (address : Option String) (w : World) :
    ∃ ns, (requested address).perform w = (.ok (address.map .ofAddress), w.noted ns) := by
  cases address with
  | none => exact ⟨[], congrArg (fun v => (Except.ok none, v)) w.noted_nil.symm⟩
  | some a => exact ⟨Coordinate.addressNotes a, perform_bind_ok (perform_notes _ w) _⟩

theorem perform_requested (address : Option String) (w : World) :
    ∃ w', (requested address).perform w = (.ok (address.map .ofAddress), w') ∧
      w'.source = w.source := by
  obtain ⟨ns, hrequest⟩ := exists_perform_requested address w
  exact ⟨w.noted ns, hrequest, rfl⟩

theorem perform_noteReading (doc : Document) (times : Nat) (w : World) :
    (doc.noteReading times).perform w = (.ok (), w.noted (.replicate times doc.readingNote)) :=
  perform_notes _ w

theorem perform_edited (edit : Except Char Document) (w : World) :
    (edited edit).perform w = (edit.mapError .reserved, w) := perform_ofExcept _ w

theorem perform_fetch? (m : Memory) (label : String) (w : World) :
    (Catalog.fetch? (.memory m) label).perform w = (.ok (m.fetch? label), w) := rfl

theorem perform_fetch_some {label : Option String} {doc : Stored}
    (h : m.fetch? (settings.resolveLabel label) = some doc) (w : World) :
    (Session.fetch ⟨.memory m, root, settings⟩ label).perform w = (.ok doc, w) := by
  rw [Session.fetch, Catalog.fetch, perform_bind_ok (perform_fetch? ..), h]
  rfl

theorem perform_fetch_none {label : Option String}
    (h : m.fetch? (settings.resolveLabel label) = none) (w : World) :
    (Session.fetch ⟨.memory m, root, settings⟩ label).perform w =
      (.error (.unknownLabel (settings.resolveLabel label)), w) := by
  rw [Session.fetch, Catalog.fetch, perform_bind_ok (perform_fetch? ..), h]
  rfl

/-- A document that is fetched or begun is sound, and its sheet is that of the
ledger. -/
theorem perform_fetchOrStart (hm : m.Sound) (root : String) (settings : Settings)
    (label : Option String) (w : World) :
    ∃ doc w', (Session.fetchOrStart ⟨.memory m, root, settings⟩ label).perform w = (.ok doc, w') ∧
      doc.Sound (settings.resolveLabel label) ∧
      doc.sheet = m.ledger.begun (settings.resolveLabel label) := by
  rw [Session.fetchOrStart, Catalog.fetchOrStart, perform_bind_ok (perform_fetch? ..),
    Ledger.begun, Memory.ledger]
  cases h : m.fetch? (settings.resolveLabel label) with
  | none => exact ⟨_, _, rfl, Stored.sound_fresh _ _ _, rfl⟩
  | some doc => exact ⟨doc, w, rfl, hm _ doc h, rfl⟩

theorem perform_standing (m : Memory) (root : String) (settings : Settings)
    (label : Option String) (w : World) :
    (Session.standing ⟨.memory m, root, settings⟩ label).perform w =
      (.ok (m.ledger.begun (settings.resolveLabel label)).place, w) := by
  rw [Session.standing, perform_bind_ok (perform_fetch? ..), Ledger.begun, Memory.ledger]
  cases m.fetch? (settings.resolveLabel label) with
  | none => rfl
  | some doc => rfl

theorem perform_save (m : Memory) (root : String) (settings : Settings) (doc : Stored)
    (w : World) :
    (Session.save ⟨.memory m, root, settings⟩ doc).perform w =
      (.ok ⟨.memory (m.save doc), root, settings⟩, w) := rfl

section Saved

variable (hm : m.Sound) {name : String} {doc : Stored} (hdoc : doc.Sound name) {sheet : Sheet}
variable (reply : Reply)

include hm hdoc

/-- A document that is saved agrees with the ledger that has its sheet. -/
theorem agrees_save (hsheet : doc.sheet = sheet) :
    Agrees settings (.ok (⟨.memory (m.save doc), root, settings⟩, reply))
      (.ok (m.ledger.set name sheet)) := by
  refine ⟨rfl, m.save doc, rfl, hm.save (hdoc.label.symm ▸ hdoc), ?_⟩
  rw [Memory.ledger_save, hsheet, hdoc.label]

/-- The end of every edit that puts a text `t` at a coordinate, where `u` is
what the coordinate then holds. -/
theorem agrees_edited {edit : Except Char Document} {c : Coordinate} {t u : Text}
    (hok : Delimiters.standard.firstReserved? t = none →
      edit = .ok (doc.document.write c u) ∧ Delimiters.standard.firstReserved? u = none)
    (herror : ∀ ch, Delimiters.standard.firstReserved? t = some ch → edit = .error ch)
    (hsheet : doc.sheet.replace c u = sheet) (times : Nat) (w : World) :
    Agrees settings
      (Act.perform (do
        let after ← edited edit
        doc.document.noteReading times
        let s ← Session.save ⟨.memory m, root, settings⟩
          ((doc.withText after.raw (← send .now)).moveTo c)
        return (s, reply)) w).1
      (do
        Ledger.allow t
        return m.ledger.set name sheet) := by
  cases ht : Delimiters.standard.firstReserved? t with
  | some ch =>
    rw [herror ch ht, Ledger.allow_eq_error ht, perform_bind_error (perform_edited _ w)]
    rfl
  | none =>
    obtain ⟨hedit, hu⟩ := hok ht
    rw [hedit, Ledger.allow_eq_ok ht, perform_bind_ok (perform_edited _ w),
      perform_bind_ok (perform_noteReading ..), perform_bind_ok (perform_send ..),
      perform_bind_ok (perform_save ..)]
    refine agrees_save hm (hdoc.withText_write hu).moveTo reply ?_
    rw [← hsheet, Stored.sheet_moveTo, Stored.sheet_withText_write hu]
    rfl

/-- The end of every edit that puts a text in place of another. -/
theorem agrees_replace {c : Coordinate} {t : Text} (hsheet : doc.sheet.replace c t = sheet)
    (times : Nat) (w : World) :
    Agrees settings
      (Act.perform (do
        let after ← edited (doc.document.replace c t)
        doc.document.noteReading times
        let s ← Session.save ⟨.memory m, root, settings⟩
          ((doc.withText after.raw (← send .now)).moveTo c)
        return (s, reply)) w).1
      (do
        Ledger.allow t
        return m.ledger.set name sheet) :=
  agrees_edited hm hdoc reply (fun h => ⟨Document.replace_eq h, h⟩)
    (fun _ h => Document.replace_eq_error h) hsheet times w

end Saved

end Parts

/-! ## Each edit

Each operation on a sound catalog comes out as the ledger says.
-/

section Edits

variable {m : Memory} (hm : m.Sound) (root : String) (settings : Settings)
variable (label address : Option String) (w : World)

include hm

theorem insert_agrees (t : Text) :
    Agrees settings
      ((Session.insert ⟨.memory m, root, settings⟩ .ordinary label address t).perform w).1
      (m.ledger.apply settings w.source (.insert label address t)) := by
  obtain ⟨w₁, hrequest, _⟩ := perform_requested address w
  obtain ⟨doc, w₂, hopened, hdoc, hsheet⟩ := perform_fetchOrStart hm root settings label w₁
  rw [Session.insert, perform_bind_ok hrequest, perform_bind_ok hopened, Ledger.apply]
  refine agrees_edited hm hdoc _ (fun h => ⟨Document.append_eq hdoc.ascending h, ?_⟩)
    (fun _ h => Document.append_eq_error h) ?_ _ _
  · -- what the document holds already was cut out of it
    exact Document.firstReserved?_cell_append doc.document _ h
  · rw [← hsheet]
    rfl

theorem update_agrees (t : Text) :
    Agrees settings
      ((Session.update ⟨.memory m, root, settings⟩ .ordinary label address t).perform w).1
      (m.ledger.apply settings w.source (.update label address t)) := by
  obtain ⟨w₁, hrequest, _⟩ := perform_requested address w
  obtain ⟨doc, w₂, hopened, hdoc, hsheet⟩ := perform_fetchOrStart hm root settings label w₁
  rw [Session.update, perform_bind_ok hrequest, perform_bind_ok hopened, Ledger.apply]
  refine agrees_replace hm hdoc _ ?_ _ _
  rw [← hsheet]
  rfl

theorem push_agrees (path : String) :
    Agrees settings
      ((Session.push ⟨.memory m, root, settings⟩ .ordinary label address path).perform w).1
      (m.ledger.apply settings w.source (.push label address path)) := by
  obtain ⟨w₁, hrequest, hsame⟩ := perform_requested address w
  have hread := perform_readSource path w₁
  rw [hsame] at hread
  -- the file is read before any document is looked up
  rw [Session.push, perform_bind_ok hrequest, Ledger.apply]
  cases hsource : w.source path with
  | error e =>
    rw [hsource] at hread
    rw [perform_bind_error hread]
    rfl
  | ok t =>
    rw [hsource] at hread
    obtain ⟨doc, w₂, hopened, hdoc, hsheet⟩ := perform_fetchOrStart hm root settings label w₁
    rw [perform_bind_ok hread, perform_bind_ok hopened]
    refine agrees_replace hm hdoc _ ?_ _ _
    rw [← hsheet]
    rfl

theorem importFile_agrees (path : String)
    (hshort : ∀ t, w.source path = .ok t → t.length < Position.limit) :
    Agrees settings ((Session.importFile ⟨.memory m, root, settings⟩ label path).perform w).1
      (m.ledger.apply settings w.source (.importFile label path)) := by
  have hread := perform_readSource path w
  rw [Session.importFile, Ledger.apply]
  cases hsource : w.source path with
  | error e =>
    rw [hsource] at hread
    rw [perform_bind_error hread]
    rfl
  | ok t =>
    rw [hsource] at hread
    obtain ⟨doc, w₁, hopened, hdoc, hsheet⟩ := perform_fetchOrStart hm root settings label w
    rw [perform_bind_ok hread, perform_bind_ok hopened, perform_bind_ok (perform_send ..),
      perform_bind_ok (perform_save ..)]
    refine agrees_save hm (hdoc.withText (hshort t hsource)) _ ?_
    rw [← hsheet]
    rfl

theorem delete_agrees :
    Agrees settings
      ((Session.delete ⟨.memory m, root, settings⟩ .ordinary label address).perform w).1
      (m.ledger.apply settings w.source (.delete label address)) := by
  obtain ⟨w₁, hrequest, _⟩ := perform_requested address w
  rw [Session.delete, perform_bind_ok hrequest, Ledger.apply]
  cases hfetch : m.fetch? (settings.resolveLabel label) with
  | none =>
    rw [perform_bind_error (perform_fetch_none hfetch w₁),
      Ledger.known_eq_error (Memory.ledger_eq_none hfetch)]
    rfl
  | some doc =>
    have hplain : Delimiters.standard.firstReserved? [] = none := rfl
    rw [perform_bind_ok (perform_fetch_some hfetch w₁),
      Ledger.known_eq_ok (Memory.ledger_eq_some hfetch)]
    dsimp only
    rw [Document.remove_eq, perform_bind_ok (perform_noteReading ..),
      perform_bind_ok (perform_send ..), perform_bind_ok (perform_save ..)]
    exact agrees_save hm ((hm _ doc hfetch).withText_write hplain) _
      (Stored.sheet_withText_write hplain)

theorem normalize_agrees :
    Agrees settings ((Session.normalize ⟨.memory m, root, settings⟩ label).perform w).1
      (m.ledger.apply settings w.source (.normalize label)) := by
  rw [Session.normalize, Ledger.apply]
  dsimp only
  cases hfetch : m.fetch? (settings.resolveLabel label) with
  | none =>
    rw [perform_bind_error (perform_fetch_none hfetch w),
      Ledger.known_eq_error (Memory.ledger_eq_none hfetch)]
    rfl
  | some doc =>
    rw [perform_bind_ok (perform_fetch_some hfetch w),
      Ledger.known_eq_ok (Memory.ledger_eq_some hfetch),
      perform_bind_ok (perform_noteReading ..)]
    -- all that counts of the text is that it is sound and has the same sheet
    have hsound := (hm _ doc hfetch).withText_normalize
    have hsheet := doc.sheet_withText_normalize
    generalize doc.document.normalize.raw = raw at hsound hsheet ⊢
    by_cases hsame : raw = doc.raw
    · rw [if_pos hsame]
      exact ⟨rfl, m, rfl, hm, rfl⟩
    · rw [if_neg hsame, perform_bind_ok (perform_send ..), perform_bind_ok (perform_save ..)]
      show Agrees settings _ (.ok m.ledger)
      rw [← Ledger.set_self (Memory.ledger_eq_some hfetch)]
      exact agrees_save hm (hsound _) _ (hsheet _)

theorem goTo_agrees (target : Coordinate) :
    Agrees settings ((Session.goTo ⟨.memory m, root, settings⟩ label target).perform w).1
      (.ok (m.ledger.revise (settings.resolveLabel label) fun s => s.moveTo target)) := by
  obtain ⟨doc, w₁, hopened, hdoc, hsheet⟩ := perform_fetchOrStart hm root settings label w
  rw [Session.goTo, perform_bind_ok hopened, perform_bind_ok (perform_save ..),
    perform_bind_ok (perform_noteReading ..)]
  refine agrees_save hm hdoc.moveTo _ ?_
  rw [← hsheet]
  rfl

theorem goToAddress_agrees (address : String) :
    Agrees settings
      ((Session.goToAddress ⟨.memory m, root, settings⟩ label address).perform w).1
      (m.ledger.apply settings w.source (.goTo label address)) := by
  rw [Session.goToAddress, perform_bind_ok (perform_notes ..)]
  exact goTo_agrees hm root settings label _ (.ofAddress address)

theorem jump_agrees (name : String) (value : Nat) :
    Agrees settings ((Session.jump ⟨.memory m, root, settings⟩ label name value).perform w).1
      (m.ledger.apply settings w.source (.jump label name value)) := by
  rw [Session.jump, Session.axisNamed, Ledger.apply, Ledger.axis, Axis.find?_named]
  cases Axis.ofName? name with
  | none => rfl
  | some a =>
    rw [perform_bind_ok (perform_pure a w), perform_bind_ok (perform_standing ..),
      perform_bind_ok (perform_notes ..)]
    exact goTo_agrees hm root settings label _ _

theorem step_agrees (name : String) (forward : Bool) :
    Agrees settings ((Session.step ⟨.memory m, root, settings⟩ label name forward).perform w).1
      (m.ledger.apply settings w.source (.step label name forward)) := by
  rw [Session.step, Session.axisNamed, Ledger.apply, Ledger.axis, Axis.find?_named]
  cases Axis.ofName? name with
  | none => rfl
  | some a =>
    rw [perform_bind_ok (perform_pure a w), perform_bind_ok (perform_standing ..)]
    exact goTo_agrees hm root settings label _ _

theorem remove_agrees :
    Agrees settings ((Session.remove ⟨.memory m, root, settings⟩ label).perform w).1
      (m.ledger.apply settings w.source (.remove label)) := by
  rw [Session.remove, Ledger.apply]
  dsimp only
  cases hfetch : m.fetch? (settings.resolveLabel label) with
  | none =>
    rw [Ledger.known_eq_error (Memory.ledger_eq_none hfetch), Catalog.delete,
      Memory.delete_of_fetch?_none hfetch]
    rfl
  | some doc =>
    rw [Ledger.known_eq_ok (Memory.ledger_eq_some hfetch), Catalog.delete,
      Memory.delete_of_fetch?_some hfetch]
    exact ⟨rfl, _, rfl, hm.erase _, Memory.ledger_erase m _⟩

end Edits

/-! ## Runs -/

namespace Session

/-- The session after an edit in a world, which stays as it is if the edit
fails. -/
def after (s : Session) (w : World) (e : Edit) : Session :=
  match ((s.call e.call).perform w).1 with
  | .ok (s', _) => s'
  | .error _ => s

/-- The session after a run of edits, each with the world it is made in. -/
def run (s : Session) (steps : List (World × Edit)) : Session :=
  steps.foldl (fun s step => s.after step.1 step.2) s

namespace Shows

variable {s : Session} {settings : Settings} {ledger : Ledger} (h : s.Shows settings ledger)

include h

/-- An edit comes out as the ledger says. -/
theorem call_agrees {w : World} {e : Edit} (hshort : e.Short w) :
    Agrees settings ((s.call e.call).perform w).1 (ledger.apply settings w.source e) := by
  obtain ⟨rfl, m, hcatalog, hm, rfl⟩ := h
  obtain ⟨catalog, root, settings⟩ := s
  cases hcatalog
  cases e with
  | insert label address t => exact insert_agrees hm root settings label address w t
  | update label address t => exact update_agrees hm root settings label address w t
  | delete label address => exact delete_agrees hm root settings label address w
  | push label address path => exact push_agrees hm root settings label address w path
  | importFile label path => exact importFile_agrees hm root settings label w path hshort
  | normalize label => exact normalize_agrees hm root settings label w
  | goTo label address => exact goToAddress_agrees hm root settings label w address
  | jump label axis value => exact jump_agrees hm root settings label w axis value
  | step label axis forward => exact step_agrees hm root settings label w axis forward
  | remove label => exact remove_agrees hm root settings label w

theorem after_edit {w : World} {e : Edit} (hshort : e.Short w) :
    (s.after w e).Shows settings (ledger.after settings w.source e) := by
  -- outcomes that agree are both failures or both not
  have hagrees := h.call_agrees hshort
  unfold after Ledger.after
  cases hcall : ((s.call e.call).perform w).1 with
  | error f =>
    rw [hcall] at hagrees
    cases happly : ledger.apply settings w.source e with
    | error f' => exact h
    | ok ledger' =>
      rw [happly] at hagrees
      exact hagrees.elim
  | ok r =>
    rw [hcall] at hagrees
    cases happly : ledger.apply settings w.source e with
    | error f' =>
      rw [happly] at hagrees
      exact hagrees.elim
    | ok ledger' =>
      rw [happly] at hagrees
      exact hagrees

theorem after_run {steps : List (World × Edit)}
    (hshort : ∀ step ∈ steps, step.2.Short step.1) :
    (s.run steps).Shows settings (ledger.run settings steps) := by
  induction steps generalizing s ledger with
  | nil => exact h
  | cons step rest ih =>
    have hstep := h.after_edit (hshort step (by simp))
    exact ih hstep fun step hmem => hshort step (by simp [hmem])

/-- Listing a label gives what the ledger has there. -/
theorem lists (w : World) (label : Option String) :
    ledger.Lists (settings.resolveLabel label)
      (((s.list label).perform w).1.map fun r => r.2.scrolls) := by
  obtain ⟨rfl, m, hcatalog, hm, rfl⟩ := h
  obtain ⟨catalog, root, settings⟩ := s
  cases hcatalog
  rw [list]
  cases hfetch : m.fetch? (settings.resolveLabel label) with
  | none =>
    rw [perform_bind_error (perform_fetch_none hfetch w)]
    exact ⟨Memory.ledger_eq_none hfetch, rfl⟩
  | some doc =>
    have hasc := (hm _ doc hfetch).ascending
    rw [perform_bind_ok (perform_fetch_some hfetch w), perform_bind_ok (perform_noteReading ..)]
    refine ⟨doc.sheet, Memory.ledger_eq_some hfetch, hasc.pairwise_scrolls, fun scroll => ?_⟩
    show scroll ∈ doc.document.segments.scrolls ↔ _
    rw [← hasc.scrolls_cells, Cells.mem_scrolls_iff]
    rfl

/-- A ledger that a session shows has no empty text. -/
theorem texts_ne_nil {label : String} {sheet : Sheet} (hsheet : ledger label = some sheet)
    (c : Coordinate) : sheet.texts c ≠ some [] := by
  obtain ⟨rfl, m, hcatalog, hm, rfl⟩ := h
  obtain ⟨doc, _, rfl⟩ := Option.map_eq_some_iff.mp hsheet
  exact fun hempty => doc.document.full_cells c [] hempty rfl

end Shows

/-- **A session in memory keeps a ledger.** Whatever edits are made from the
start on, in whatever worlds and with whatever failures between them, the
documents are those of the ledger of the same edits. Each further edit then
comes out as the ledger says, failures included; listing a label gives what the
ledger has there, in order; and the ledger has no empty text. -/
theorem run_shows_ledger (root : String) (settings : Settings) (steps : List (World × Edit))
    (h : ∀ step ∈ steps, step.2.Short step.1) :
    ((run ⟨.memory .empty, root, settings⟩ steps).Shows settings
      (Ledger.run .empty settings steps)) ∧
    (∀ w e, e.Short w →
      Agrees settings
        (((run ⟨.memory .empty, root, settings⟩ steps).call e.call).perform w).1
        ((Ledger.run .empty settings steps).apply settings w.source e)) ∧
    (∀ w label, (Ledger.run .empty settings steps).Lists (settings.resolveLabel label)
      ((((run ⟨.memory .empty, root, settings⟩ steps).list label).perform w).1.map
        fun r => r.2.scrolls)) ∧
    ∀ label sheet, Ledger.run .empty settings steps label = some sheet →
      ∀ c, sheet.texts c ≠ some [] := by
  have hstart : Shows ⟨.memory .empty, root, settings⟩ settings .empty :=
    ⟨rfl, .empty, rfl, Memory.sound_empty, rfl⟩
  have hrun := hstart.after_run h
  exact ⟨hrun, fun w e => hrun.call_agrees, hrun.lists, fun label sheet => hrun.texts_ne_nil⟩

/-- A file imported, and a text put after its second scroll. -/
def importThenInsert : List (World × Edit) :=
  [(.ofFile "f" ['a', '\x17', 'b'], .importFile none "f"),
    (.ofFile "f" [], .insert none (some "1.1.1/1.1.1/1.1.2") ['c'])]

theorem run_shows_ledger_import_insert :
    (∀ step ∈ importThenInsert, step.2.Short step.1) ∧
    (run ⟨.memory .empty, "", .standard⟩ importThenInsert).Shows .standard
      (Ledger.run .empty .standard importThenInsert) ∧
    ((Ledger.run .empty .standard importThenInsert).begun "holiday").text
      (Coordinate.origin.advance .scroll) = ['b', 'c'] := by
  have hshort : ∀ step ∈ importThenInsert, step.2.Short step.1 := by
    intro step hstep
    rcases List.mem_pair.mp hstep with rfl | rfl
    · intro t ht
      have htext : t = ['a', '\x17', 'b'] := (Except.ok.inj ht).symm
      rw [htext]
      decide
    · trivial
  exact ⟨hshort, (run_shows_ledger "" .standard importThenInsert hshort).1, by decide⟩

end Session

end Ninefold
