import Mathlib
import Ninefold.Proofs.Reach
import Ninefold.Proofs.Simulation

/-!
# Listed labels name their documents

A label that a user gives is taken without the blanks around it, and if nothing
is left of it the default label is meant. So a document can be named if no
blanks surround its label and it has something in it. The labels that are given
come to such ones, and so does a default label that is set; one that is read
from the file of settings is taken as it stands there. If that is such a label
as well, every label that is listed names the document it is listed for.
-/

namespace Ninefold

/-- A label that names a document when it is given. -/
def Nameable (label : String) : Prop := trimmed label = label ∧ label ≠ ""

theorem trimmed_trimmed (s : String) : trimmed (trimmed s) = trimmed s := by
  rw [trimmed, trimmed, Text.ofString_asString, Text.trim_trim]

theorem Nameable.resolveLabel {label : String} (h : Nameable label) (settings : Settings) :
    settings.resolveLabel (some label) = label := by
  have hresolve : settings.resolveLabel (some label) =
      if (trimmed label).isEmpty then settings.defaultLabel else trimmed label := rfl
  rw [hresolve, h.1, if_neg (by simpa [String.isEmpty_iff] using h.2)]

namespace Rule

/-- Documents are kept under their labels, and these name them. -/
def named : Rule where
  place _ := True
  label kept l := kept = l ∧ Nameable l
  text _ := True
  place_origin := trivial
  place_ofAddress _ := trivial
  place_set _ _ _ := trivial
  place_next _ _ := trivial
  place_previous _ _ := trivial
  label_self h := ⟨rfl, h.2⟩
  label_trimmed h := ⟨rfl, trimmed_trimmed _, h⟩
  text_plain _ := trivial
  text_weave _ _ := trivial

variable {r : Rule} {home : Home} {cwd : Place} {c : Catalog}

/-- A session that is opened has settings that suit, as its files say. -/
theorem upholds_openAt (hc : r.Stocks home c) :
    (Session.openAt c home.root).Upholds (r.law home cwd)
      fun s => r.Holds home s ∧ s = ⟨c, home.root, s.settings⟩ :=
  upholds_loadSettings.bind fun _ hsuits => Act.upholds_pure ⟨⟨rfl, hc, hsuits⟩, rfl⟩

end Rule

/-! ## Labels in a run -/

namespace Session

variable {s s' : Session} {w₀ w w' : World} {catalog : Catalog} {root : String}

/-- A demand that writes nothing over the settings or the index of a session at
a path that the user gives. -/
def Respects (s : Session) (w : World) (d : Demand) : Prop :=
  ∀ path, d.target? = some path →
    Path.place w.cwd path ≠ Path.place w.cwd (Settings.path s.root) ∧
      ∀ store, s.catalog.store? = some store →
        Path.place w.cwd path ≠ Path.place w.cwd (Disk.indexPath store)

theorem permits_named {d : Demand} (h : s.Respects w d) :
    Rule.named.Permits s.home w.cwd d where
  imports _ _ := trivial
  writes path hpath t _ := by
    obtain ⟨hsettings, hindex⟩ := h path hpath
    exact ⟨fun hp => absurd hp hsettings,
      fun store hstore => ⟨fun hp => absurd hp (hindex store hstore), fun _ _ => trivial⟩⟩

/-- **A listed label names its document.** If the default label in the file of
settings, when there is one, has something in it and no blanks around it, then
in a session that is opened there over a store without documents, after any
demands that leave its files alone, met or failed: every label that is listed is
resolved to itself, and it leads to the very document it is listed for. -/
theorem Reaches.listed_named (h : s.Reaches s.Respects s.SparedIn w s' w')
    (hopen : (openAt catalog root).perform w₀ = (.ok s, w)) (hblank : catalog.Blank w₀)
    (hdefault : ∀ content t, w₀.files.at? (Path.place w₀.cwd (Settings.path root)) =
      some (.file content) → Text.ofBytes? content = some t →
        (Reading.whole Settings.read t).Yields fun settings => Nameable settings.defaultLabel) :
    ∀ records, (s'.catalog.list.perform w').1 = .ok records → ∀ record ∈ records,
      s'.settings.resolveLabel (some record.label) = record.label ∧
      ((s'.path (some record.label)).perform w').1 = .ok (s'.catalog.location record) ∧
      ∀ doc, ((s'.fetch (some record.label)).perform w').1 = .ok doc → doc.record = record := by
  have hstocks : Rule.named.Stocks ⟨root, catalog.store?⟩ catalog :=
    Rule.stocks_of_blank (s := ⟨catalog, root, .standard⟩) hblank
  have hw₀ : w₀.files.Obeys (Rule.named.law ⟨root, catalog.store?⟩ w₀.cwd) :=
    Rule.obeys_of_blank (s := ⟨catalog, root, .standard⟩) hblank fun content t hat ht =>
      (hdefault content t hat ht).mono fun _ hname => ⟨rfl, hname⟩
  obtain ⟨hw, hs⟩ := Rule.upholds_openAt hstocks w₀ ⟨rfl, hw₀⟩
  rw [hopen] at hw hs
  obtain ⟨hholds, hsession⟩ := hs s rfl
  have hhome : s.home = ⟨root, catalog.store?⟩ := by rw [hsession]; rfl
  rw [← hhome] at hw hholds
  obtain ⟨hs', hw'⟩ := h.holds hholds (hw.cwd ▸ hw.files) (fun _ _ hd => permits_named hd)
    (fun _ _ hspared => Rule.obeys_of_spared hspared)
  intro records hlist record hrecord
  obtain ⟨kept, hknows⟩ := Catalog.knows_of_list hlist hrecord
  obtain ⟨rfl, hname⟩ := (Rule.admits_of_knows hs'.catalog ⟨rfl, hw'⟩ hknows).label
  have hresolve := hname.resolveLabel s'.settings
  refine ⟨hresolve, ?_, fun doc hfetch => ?_⟩
  · rw [path, hresolve]
    exact hknows.path
  · rw [fetch, hresolve] at hfetch
    obtain ⟨found, w₁, hfound⟩ := Act.perform_of_bind_ok (Prod.ext hfetch rfl)
    obtain ⟨raw, rfl⟩ := hknows.fetch? (by rw [hfound])
    rw [Catalog.fetch, Act.perform_bind_ok hfound] at hfetch
    cases hfetch
    rfl

/-- A letter inserted under a label with blanks around it. -/
def insertPadded : Demand := .call (.insert (some " x ") none ['a'])

/-- The document that the letter begins. -/
def namedDoc : Stored :=
  ((Stored.fresh "x" default (.ofNat 0)).withText ['a'] default).moveTo .origin

/-- It is listed without the blanks. -/
theorem listed_named_insertPadded :
    (openAt (.memory .empty) "home").perform .bare = (.ok newNotebook, .bare) ∧
    (Catalog.memory .empty).Blank .bare ∧
    (∀ content t, World.bare.files.at? (Path.place World.bare.cwd (Settings.path "home")) =
      some (.file content) → Text.ofBytes? content = some t →
        (Reading.whole Settings.read t).Yields fun settings => Nameable settings.defaultLabel) ∧
    newNotebook.Reaches newNotebook.Respects newNotebook.SparedIn .bare
      (newNotebook.goOn insertPadded .bare).1 (newNotebook.goOn insertPadded .bare).2 ∧
    ((newNotebook.goOn insertPadded .bare).1.catalog.list.perform
      (newNotebook.goOn insertPadded .bare).2).1 = .ok [namedDoc.record] ∧
    (newNotebook.goOn insertPadded .bare).1.settings.resolveLabel (some namedDoc.record.label) =
      namedDoc.record.label := by
  have hopen : (openAt (.memory .empty) "home").perform .bare = (.ok newNotebook, .bare) := rfl
  have hblank : (Catalog.memory .empty).Blank .bare := rfl
  have hdefault : ∀ content t,
      World.bare.files.at? (Path.place World.bare.cwd (Settings.path "home")) =
        some (.file content) → Text.ofBytes? content = some t →
          (Reading.whole Settings.read t).Yields fun settings => Nameable settings.defaultLabel :=
    fun _ _ hat => by cases hat
  have hrun : newNotebook.Reaches newNotebook.Respects newNotebook.SparedIn .bare
      (newNotebook.goOn insertPadded .bare).1 (newNotebook.goOn insertPadded .bare).2 :=
    .demand insertPadded .start fun _ hpath => by cases hpath
  have hlist : ((newNotebook.goOn insertPadded .bare).1.catalog.list.perform
      (newNotebook.goOn insertPadded .bare).2).1 = .ok [namedDoc.record] := rfl
  exact ⟨hopen, hblank, hdefault, hrun, hlist,
    (hrun.listed_named hopen hblank hdefault _ hlist _ (List.mem_singleton_self _)).1⟩

/-! ## A default label with blanks around it -/

/-- Settings with such a label. -/
def paddedSettings : Settings := ⟨" x ", 250⟩

/-- A world in which they are in the file of settings. -/
def paddedHome : World :=
  ⟨⟨.ofList [(["home"], .directory),
    (["home", "config.json"], .file paddedSettings.draft.pretty.bytes)]⟩, [], default, 0, .empty,
    [], []⟩

/-- The session that is opened there. -/
def paddedPad : Session := ⟨.memory .empty, "home", paddedSettings⟩

theorem perform_openAt_paddedHome :
    ∃ w, (openAt (.memory .empty) "home").perform paddedHome = (.ok paddedPad, w) := by
  have hread : paddedHome.files.read paddedHome.cwd (Settings.path "home") =
      .ok paddedSettings.draft.pretty.bytes := rfl
  have hgives := Reading.gives_whole (Settings.gives_read_draft (s := paddedSettings) (by decide))
  obtain ⟨ns, hload⟩ := Settings.perform_load hread hgives
  exact ⟨_, Act.perform_bind_ok hload _⟩

/-- The document that a letter begins there, where no label is given. -/
def paddedDoc (w : World) : Stored :=
  ((Stored.fresh " x " w.clock (.ofNat w.ids)).withText ['x'] w.clock).moveTo .origin

theorem goOn_paddedPad (w : World) : (paddedPad.goOn insertLetter w).1 =
    ⟨.memory (Memory.save .empty (paddedDoc w)), "home", paddedSettings⟩ := by
  have hasked : (requested none).perform w = (.ok none, w) := rfl
  have hstart : (paddedPad.fetchOrStart none).perform w =
      (.ok (.fresh " x " w.clock (.ofNat w.ids)), { w with ids := w.ids + 1 }) := rfl
  have hdoc : (Stored.fresh " x " w.clock (.ofNat w.ids)).document = .ofText [] := rfl
  have hedit : ∀ w₁, (Act.edited ((Document.ofText []).append .origin ['x'])).perform w₁ =
      (.ok (.ofText ['x']), w₁) := fun _ => rfl
  have hinsert : ∃ reply w', (paddedPad.insert .ordinary none none ['x']).perform w =
      (.ok (⟨.memory (Memory.save .empty (paddedDoc w)), "home", paddedSettings⟩, reply), w') := by
    rw [insert, Act.perform_bind_ok hasked, Act.perform_bind_ok hstart, hdoc]
    exact ⟨_, _, (Act.perform_bind_ok (hedit _) _).trans rfl⟩
  obtain ⟨reply, w', hinsert⟩ := hinsert
  have hmeet : (paddedPad.meet insertLetter).perform w =
      (.ok ⟨.memory (Memory.save .empty (paddedDoc w)), "home", paddedSettings⟩, w') :=
    Act.perform_bind_ok hinsert _
  rw [goOn, hmeet]

/-- It is listed under a label that leads nowhere. -/
theorem unknown_listed_paddedHome :
    (Catalog.memory .empty).Blank paddedHome ∧
    ∃ w, (openAt (.memory .empty) "home").perform paddedHome = (.ok paddedPad, w) ∧
    ((paddedPad.goOn insertLetter w).1.catalog.list.perform
        (paddedPad.goOn insertLetter w).2).1 = .ok [(paddedDoc w).record] ∧
    (paddedPad.goOn insertLetter w).1.settings.resolveLabel (some (paddedDoc w).record.label) ≠
      (paddedDoc w).record.label ∧
    (((paddedPad.goOn insertLetter w).1.fetch (some (paddedDoc w).record.label)).perform
      (paddedPad.goOn insertLetter w).2).1 = .error (.unknownLabel "x") := by
  obtain ⟨w, hopen⟩ := perform_openAt_paddedHome
  have hlabel : (paddedDoc w).record.label = " x " := rfl
  have hresolve : paddedSettings.resolveLabel (some " x ") = "x" := rfl
  have hnone : Memory.fetch? (Memory.save .empty (paddedDoc w))
      (paddedSettings.resolveLabel (some " x ")) = none := by
    rw [hresolve, Memory.fetch?_save, hlabel, if_neg (by decide)]
    rfl
  refine ⟨rfl, w, hopen, ?_⟩
  rw [goOn_paddedPad, hlabel]
  refine ⟨rfl, ?_, ?_⟩
  · rw [hresolve]
    decide
  · rw [perform_fetch_none hnone, hresolve]

end Session

end Ninefold
