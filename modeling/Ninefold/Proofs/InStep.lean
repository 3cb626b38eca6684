import Mathlib
import Ninefold.Proofs.Inputs
import Ninefold.Proofs.Reach

/-!
# Settings in memory and on disk

A request about the settings takes up what lies in the directory of the store,
works out what is to become of it, keeps that if it was to be set, and makes it
the settings of the session. So after a request that succeeds the settings of
the session are those in the directory, and they stay so until others change
the files. A request that fails has changed nothing.
-/

namespace Ninefold

/-! ## What a request asks for -/

namespace Session.SettingsRequest

/-- What a request asks the settings to become: those that are only shown stay
as they are, and those that are set have a default label that is not blank, or a
width that is written and not zero, in place of their own. -/
def Turns (r : SettingsRequest) (before after : Settings) : Prop :=
  match r with
  | .showAll => after = before
  | .showKey _ => after = before
  | .setDefaultLabel value =>
    trimmed value ≠ "" ∧ after = { before with defaultLabel := trimmed value }
  | .setPreviewWidth value =>
    ∃ n, Settings.Writes value n ∧ 1 ≤ n ∧ after = { before with previewWidth := n }

/-- What becomes of settings by a request. -/
def outcome (before : Settings) : SettingsRequest → Except Settings.Fault Settings
  | .showAll => .ok before
  | .showKey _ => .ok before
  | .setDefaultLabel value => before.setDefaultLabel value
  | .setPreviewWidth value => before.setPreviewWidth value

/-- The outcome of a request kept, if it was to be set. -/
def keep (directory : String) (after : Settings) : SettingsRequest → Act Unit
  | .showAll => pure ()
  | .showKey _ => pure ()
  | .setDefaultLabel _ => after.save directory
  | .setPreviewWidth _ => after.save directory

variable {r : SettingsRequest} {before after : Settings} {directory : String} {w : World}

theorem outcome_eq_ok_iff : r.outcome before = .ok after ↔ r.Turns before after := by
  cases r with
  | showAll => exact ⟨fun h => (Except.ok.inj h).symm, fun h => congrArg Except.ok h.symm⟩
  | showKey key => exact ⟨fun h => (Except.ok.inj h).symm, fun h => congrArg Except.ok h.symm⟩
  | setDefaultLabel value => exact Settings.setDefaultLabel_eq_ok_iff
  | setPreviewWidth value =>
    show before.setPreviewWidth value = .ok after ↔ _
    rw [Settings.setPreviewWidth_eq_ok_iff]
    simp only [Turns, Settings.width?_eq_some_iff]

/-- No request leads to a width that cannot be read. -/
theorem Turns.width_le (h : r.Turns before after)
    (hwidth : before.previewWidth ≤ Settings.widthLimit) :
    after.previewWidth ≤ Settings.widthLimit := by
  cases r with
  | showAll => exact h ▸ hwidth
  | showKey key => exact h ▸ hwidth
  | setDefaultLabel value =>
    obtain ⟨-, rfl⟩ := h
    exact hwidth
  | setPreviewWidth value =>
    obtain ⟨n, hn, -, rfl⟩ := h
    exact Settings.width?_le (Settings.width?_eq_some_iff.mpr hn)

/-- What a request was to come to lies in the directory once it has been
kept. -/
theorem Turns.perform_keep (h : r.Turns before after)
    (hload : ((Settings.load directory).perform w).1 = .ok before)
    (hwidth : after.previewWidth ≤ Settings.widthLimit)
    (hsystem : (r.keep directory after).Unrefused w) :
    ∃ w', (r.keep directory after).perform w = (.ok (), w') ∧
      ((Settings.load directory).perform w').1 = .ok after := by
  have hsave : (after.save directory).Unrefused w → ∃ w',
      (after.save directory).perform w = (.ok (), w') ∧
        ((Settings.load directory).perform w').1 = .ok after := by
    intro hsystem
    obtain ⟨w', hsaved⟩ := Settings.exists_perform_save hsystem
    exact ⟨w', hsaved, Settings.load_of_save hwidth hsaved⟩
  cases r with
  | showAll => exact ⟨w, rfl, h ▸ hload⟩
  | showKey key => exact ⟨w, rfl, h ▸ hload⟩
  | setDefaultLabel value => exact hsave hsystem
  | setPreviewWidth value => exact hsave hsystem

end Session.SettingsRequest

/-! ## A request without the words to the user -/

namespace Settings

open Session (SettingsRequest)

variable {r : SettingsRequest} {directory : String} {w : World}

/-- The settings of a directory, shown or set. -/
def settle (directory : String) (r : SettingsRequest) : Act Settings := do
  let before ← load directory
  let after ← Act.ofExcept ((r.outcome before).mapError Failure.setting)
  r.keep directory after
  return after

/-- The width of settings that have been loaded is in range. -/
theorem width_le_of_load {c : Settings} (h : ((load directory).perform w).1 = .ok c) :
    c.previewWidth ≤ widthLimit := by
  have hload : (load directory).Upholds ⟨w.cwd, fun _ _ => True⟩
      fun c => c.previewWidth ≤ widthLimit := by
    refine (Act.upholds_send (.isThere (path directory)) trivial).bind fun there _ => ?_
    cases there with
    | false =>
      have hstandard : standard.previewWidth ≤ widthLimit := by decide
      exact Act.upholds_pure hstandard
    | true =>
      refine (Act.upholds_readText (path directory)).bind fun t _ => ?_
      exact Act.upholds_reading (Reading.yields_whole (yields_read _))
  exact (hload w ⟨rfl, fun _ _ _ _ _ => trivial⟩).2 c h

/-- **What a request comes to.** Where the system refuses no change of files, it
succeeds exactly if the settings of the directory can be loaded and can become
what is asked for, and then the directory has what it comes to. Where it fails,
it leaves the files as they were. -/
theorem perform_settle (hsystem : (settle directory r).Unrefused w) :
    (∃ before after w', ((load directory).perform w).1 = .ok before ∧ r.Turns before after ∧
      (settle directory r).perform w = (.ok after, w') ∧
        ((load directory).perform w').1 = .ok after) ∨
    ∃ e w', (settle directory r).perform w = (.error e, w') ∧ w'.files = w.files ∧
      ∀ before after, ((load directory).perform w).1 = .ok before → ¬ r.Turns before after := by
  have hfiles := Act.files_perform (quiet_load directory) w
  have hcwd := Act.cwd_perform (load directory) w
  cases hload : (load directory).perform w with
  | mk loaded w₁ =>
    rw [hload] at hfiles hcwd
    cases loaded with
    | error e =>
      exact .inr ⟨e, w₁, Act.perform_bind_error hload _, hfiles, fun _ _ h => by cases h⟩
    | ok before =>
      rw [settle, Act.unrefused_bind_ok hload] at hsystem
      have hrun : (settle directory r).perform w = _ := Act.perform_bind_ok hload _
      cases houtcome : r.outcome before with
      | error fault =>
        have hoffer : (Act.ofExcept ((r.outcome before).mapError Failure.setting)).perform w₁ =
            (.error (.setting fault), w₁) := by
          rw [houtcome]
          rfl
        refine .inr ⟨_, w₁, hrun.trans (Act.perform_bind_error hoffer _), hfiles,
          fun c after hc hturns => ?_⟩
        cases hc
        rw [← SettingsRequest.outcome_eq_ok_iff, houtcome] at hturns
        cases hturns
      | ok after =>
        have hturns := SettingsRequest.outcome_eq_ok_iff.mp houtcome
        have hagain : ((load directory).perform w₁).1 = .ok before := by
          rw [load_congr hcwd hfiles, hload]
        have hwidth := hturns.width_le (width_le_of_load hagain)
        have hoffer : (Act.ofExcept ((r.outcome before).mapError Failure.setting)).perform w₁ =
            (.ok after, w₁) := by
          rw [houtcome]
          rfl
        have hkeep := ((Act.unrefused_bind_ok hoffer _).mp hsystem.2).2.left
        obtain ⟨w', hkept, hafter⟩ := hturns.perform_keep hagain hwidth hkeep
        refine .inl ⟨before, after, w', rfl, hturns, ?_, hafter⟩
        rw [hrun, Act.perform_bind_ok hoffer, Act.perform_bind_ok hkept]
        rfl

end Settings

namespace Session

variable {s s' s₁ : Session} {w w' w₁ : World} {r : SettingsRequest}

/-- A request makes the settings of its directory those of the session. -/
theorem configure_eq (s : Session) (r : SettingsRequest) :
    ∃ reply : Settings → Reply, s.configure r =
      Settings.settle s.root r >>= fun after =>
        pure ({ s with settings := after }, reply after) := by
  have hset : ∀ (after : Settings → Except Settings.Fault Settings) (message : Settings → String),
      (do
        let before ← Settings.load s.root
        let x ← s.change (after before) message
        pure ({ s with settings := x.1 },
          { Reply.empty with messages := x.2, settings := some x.1 })) =
      (do
        let before ← Settings.load s.root
        let c ← Act.ofExcept ((after before).mapError Failure.setting)
        c.save s.root
        pure ({ s with settings := c },
          { Reply.empty with messages := [⟨.success, message c⟩], settings := some c })) := by
    intro after message
    simp only [change, bind_assoc, pure_bind]
  unfold Settings.settle
  simp only [bind_assoc, pure_bind]
  cases r with
  | showAll => exact ⟨fun c => { Reply.empty with settings := some c }, rfl⟩
  | showKey key =>
    exact ⟨fun c => { Reply.empty with
      messages := if settingNames.contains key then [] else
        [⟨.warning, "Unknown config key: " ++ key⟩]
      settings := some c }, rfl⟩
  | setDefaultLabel value => exact ⟨_, hset (·.setDefaultLabel value) _⟩
  | setPreviewWidth value => exact ⟨_, hset (·.setPreviewWidth value) _⟩

/-- The settings of a session are those that lie in its directory. -/
def InStep (s : Session) (w : World) : Prop :=
  ((Settings.load s.root).perform w).1 = .ok s.settings

/-- A demand about the settings, of which the system refuses no change of files.
It is the same for all sessions over one directory. -/
def Adjusts (s : Session) (w : World) (d : Demand) : Prop :=
  ∃ r, d = .call (.configure r) ∧ (s.configure r).Unrefused w

theorem unrefused_settle (h : (s.configure r).Unrefused w) :
    (Settings.settle s.root r).Unrefused w := by
  obtain ⟨reply, heq⟩ := s.configure_eq r
  rw [heq] at h
  exact h.left

/-- A request either takes the session along with its directory, or it leaves
both. -/
theorem configure_cases (hsystem : (Settings.settle s.root r).Unrefused w) :
    (∃ before after reply w', ((Settings.load s.root).perform w).1 = .ok before ∧
      r.Turns before after ∧
      (s.configure r).perform w = (.ok ({ s with settings := after }, reply), w') ∧
      s.goOn (.call (.configure r)) w = ({ s with settings := after }, w') ∧
      InStep { s with settings := after } w') ∨
    ∃ e w', (s.configure r).perform w = (.error e, w') ∧
      s.goOn (.call (.configure r)) w = (s, w') ∧ w'.files = w.files ∧
      ∀ before after, ((Settings.load s.root).perform w).1 = .ok before →
        ¬ r.Turns before after := by
  obtain ⟨reply, heq⟩ := s.configure_eq r
  rcases Settings.perform_settle hsystem with
    ⟨before, after, w', hload, hturns, hrun, hafter⟩ | ⟨e, w', hrun, hfiles, hnone⟩
  · have hconfigure : (s.configure r).perform w =
        (.ok ({ s with settings := after }, reply after), w') := by
      rw [heq, Act.perform_bind_ok hrun]
      rfl
    have hmeet : (s.meet (.call (.configure r))).perform w =
        (.ok { s with settings := after }, w') := Act.perform_bind_ok hconfigure _
    refine .inl ⟨before, after, reply after, w', hload, hturns, hconfigure, ?_, hafter⟩
    rw [goOn, hmeet]
  · have hconfigure : (s.configure r).perform w = (.error e, w') := by
      rw [heq, Act.perform_bind_error hrun]
    have hmeet : (s.meet (.call (.configure r))).perform w = (.error e, w') :=
      Act.perform_bind_error hconfigure _
    refine .inr ⟨e, w', hconfigure, ?_, hfiles, hnone⟩
    rw [goOn, hmeet]

theorem root_goOn_configure (hsystem : (Settings.settle s.root r).Unrefused w) :
    (s.goOn (.call (.configure r)) w).1.root = s.root := by
  rcases configure_cases hsystem with ⟨_, _, _, _, _, _, _, hgoOn, _⟩ | ⟨_, _, _, hgoOn, _⟩
  · rw [hgoOn]
  · rw [hgoOn]

/-- No request brings a session out of step. -/
theorem InStep.goOn_configure (hs : s.InStep w)
    (hsystem : (Settings.settle s.root r).Unrefused w) :
    (s.goOn (.call (.configure r)) w).1.InStep (s.goOn (.call (.configure r)) w).2 := by
  rcases configure_cases hsystem with
    ⟨_, _, _, w', _, _, _, hgoOn, hafter⟩ | ⟨_, w', hrun, hgoOn, hfiles, _⟩
  · rw [hgoOn]
    exact hafter
  · have hcwd := Act.cwd_perform (s.configure r) w
    rw [hrun] at hcwd
    rw [hgoOn]
    exact (Settings.load_congr hcwd hfiles).trans hs

/-! ## Request after request -/

variable {others : World → World → Prop}

/-- A session stays over its directory. -/
theorem Reaches.root_eq (h : s.Reaches s.Adjusts others w s' w') : s'.root = s.root := by
  induction h with
  | start => rfl
  | demand d _ hd ih =>
    obtain ⟨r, rfl, hr⟩ := hd
    rw [root_goOn_configure (ih ▸ unrefused_settle hr), ih]
  | others _ _ ih => exact ih

/-- A session that nobody else interferes with stays in step. -/
theorem Reaches.inStep (h : s.Reaches s.Adjusts (fun _ _ => False) w s' w') (hs : s.InStep w) :
    s'.InStep w' := by
  induction h with
  | start => exact hs
  | demand d hreach hd ih =>
    obtain ⟨r, rfl, hr⟩ := hd
    exact ih.goOn_configure (hreach.root_eq ▸ unrefused_settle hr)
  | others _ hchange _ => exact hchange.elim

/-- **Settings in memory and on disk stay in step.** Let a session meet requests
about the settings, whatever others do to the world in between. The next
request succeeds exactly if the settings in its directory can be loaded and can
become what is asked for. Where it succeeds, they have become just that, the
settings of the session are those that are loaded from then on, and they remain
so with any further requests until others change the world. Where it fails, the
session and all files are as they were. -/
theorem Reaches.settings_in_step (h : s.Reaches s.Adjusts (fun _ _ => True) w s' w')
    (r : SettingsRequest) (hsystem : (s'.configure r).Unrefused w')
    (hgoOn : s'.goOn (.call (.configure r)) w' = (s₁, w₁)) :
    ((∃ x, ((s'.configure r).perform w').1 = .ok x) ↔
      ∃ before after, ((Settings.load s.root).perform w').1 = .ok before ∧
        r.Turns before after) ∧
    (∀ x, ((s'.configure r).perform w').1 = .ok x →
      (∃ before, ((Settings.load s.root).perform w').1 = .ok before ∧
        r.Turns before s₁.settings) ∧
      ((Settings.load s.root).perform w₁).1 = .ok s₁.settings ∧
      ∀ s₂ w₂, s₁.Reaches s₁.Adjusts (fun _ _ => False) w₁ s₂ w₂ →
        ((Settings.load s.root).perform w₂).1 = .ok s₂.settings) ∧
    ∀ e, ((s'.configure r).perform w').1 = .error e → s₁ = s' ∧ w₁.files = w'.files := by
  have hroot := h.root_eq
  rcases configure_cases (unrefused_settle hsystem) with
    ⟨before, after, reply, w'', hload, hturns, hrun, hnext, hstep⟩ |
      ⟨e, w'', hrun, hnext, hfiles, hnone⟩
  · rw [hnext] at hgoOn
    cases hgoOn
    rw [hroot] at hload
    rw [hrun]
    refine ⟨⟨fun _ => ⟨before, after, hload, hturns⟩, fun _ => ⟨_, rfl⟩⟩, fun _ _ => ?_,
      fun _ he => by cases he⟩
    refine ⟨⟨before, hload, hturns⟩, hroot ▸ hstep, fun s₂ w₂ hreach => ?_⟩
    have hlater : s₂.InStep w₂ := hreach.inStep hstep
    rwa [InStep, hreach.root_eq, hroot] at hlater
  · rw [hnext] at hgoOn
    cases hgoOn
    rw [hroot] at hnone
    rw [hrun]
    refine ⟨⟨?_, ?_⟩, ?_, fun _ _ => ⟨rfl, hfiles⟩⟩
    · rintro ⟨_, hx⟩
      cases hx
    · rintro ⟨before, after, hload, hturns⟩
      exact absurd hturns (hnone before after hload)
    · intro _ hx
      cases hx

/-- A default label set, with blanks around it. -/
def labelWork : SettingsRequest := .setDefaultLabel " work "

/-- A default label of blanks alone. -/
def labelBlank : SettingsRequest := .setDefaultLabel " "

/-- A session whose user has set another label. -/
def minePad : Session := ⟨.memory .empty, "home", ⟨"mine", 250⟩⟩

/-- Settings that somebody else has put in the place of these. -/
def sharedSettings : Settings := ⟨"ours", 12⟩

/-- A world in which they are in the file of settings. -/
def sharedHome : World :=
  ⟨⟨.ofList [(["home"], .directory),
    (["home", "config.json"], .file sharedSettings.draft.pretty.bytes)]⟩, [], default, 0, .empty,
    [], []⟩

/-- A label that is set leaves the width that somebody else has set, and a
blank one leaves everything. -/
theorem settings_in_step_sharedHome :
    newNotebook.Reaches newNotebook.Adjusts (fun _ _ => True) .bare minePad sharedHome ∧
      (minePad.configure labelWork).Unrefused sharedHome ∧
      (minePad.goOn (.call (.configure labelWork)) sharedHome).1.settings = ⟨"work", 12⟩ ∧
      ((Settings.load "home").perform
        (minePad.goOn (.call (.configure labelWork)) sharedHome).2).1 = .ok ⟨"work", 12⟩ ∧
      (minePad.configure labelBlank).Unrefused sharedHome ∧
      (minePad.goOn (.call (.configure labelBlank)) sharedHome).1 = minePad ∧
      (minePad.goOn (.call (.configure labelBlank)) sharedHome).2.files = sharedHome.files := by
  have hmine : (newNotebook.configure (.setDefaultLabel "mine")).Unrefused .bare :=
    ⟨rfl, rfl, rfl, rfl, trivial⟩
  have hreach :
      newNotebook.Reaches newNotebook.Adjusts (fun _ _ => True) .bare minePad sharedHome :=
    .others (.demand (.call (.configure (.setDefaultLabel "mine"))) .start ⟨_, rfl, hmine⟩) trivial
  obtain ⟨ns, hload⟩ : ∃ ns, (Settings.load "home").perform sharedHome =
      (.ok sharedSettings, sharedHome.noted ns) :=
    Settings.perform_load rfl
      (Reading.gives_whole (Settings.gives_read_draft (s := sharedSettings) (by decide)))
  have hlooks : (Settings.load "home").Unrefused sharedHome :=
    Script.unrefused_of_quiet (Settings.quiet_load "home") sharedHome
  have hwork : (minePad.configure labelWork).Unrefused sharedHome :=
    (Act.unrefused_bind_ok hload _).mpr ⟨hlooks, rfl, rfl, trivial⟩
  have hblank : (minePad.configure labelBlank).Unrefused sharedHome :=
    (Act.unrefused_bind_ok hload _).mpr ⟨hlooks, trivial⟩
  have hloaded : ((Settings.load "home").perform sharedHome).1 = .ok sharedSettings := by rw [hload]
  have hturns : labelWork.Turns sharedSettings ⟨"work", 12⟩ := ⟨by decide, rfl⟩
  obtain ⟨hworks, hset, -⟩ := hreach.settings_in_step labelWork hwork Prod.mk.eta.symm
  obtain ⟨x, hx⟩ := hworks.mpr ⟨_, _, hloaded, hturns⟩
  obtain ⟨⟨before, hbefore, -, hlabel⟩, hstep, -⟩ := hset x hx
  obtain rfl : sharedSettings = before := Except.ok.inj (hloaded.symm.trans hbefore)
  obtain ⟨hfails, -, hleft⟩ := hreach.settings_in_step labelBlank hblank Prod.mk.eta.symm
  have hrefused : ∃ e, ((minePad.configure labelBlank).perform sharedHome).1 = .error e := by
    cases hanswer : ((minePad.configure labelBlank).perform sharedHome).1 with
    | ok x =>
      obtain ⟨_, _, -, hlabel, -⟩ := hfails.mp ⟨x, hanswer⟩
      exact absurd rfl hlabel
    | error e => exact ⟨e, rfl⟩
  obtain ⟨e, he⟩ := hrefused
  exact ⟨hreach, hwork, hlabel, hstep.trans (congrArg Except.ok hlabel), hblank, hleft e he⟩

end Session

end Ninefold
