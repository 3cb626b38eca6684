import Mathlib
import Ninefold.Proofs.Upkeep
import Ninefold.Proofs.View

/-!
# Sessions in use

A session in use meets one demand after another, of those that may be made, and
goes on from each, also from one that fails; in between, others may change the
world. If it keeps to a rule at first, and every demand has the permission that
it needs, then it keeps to the rule wherever it comes.
-/

namespace Ninefold

/-! ## What needs a permission -/

namespace Call

/-- A call that makes a whole file the text of a document. -/
def IsImport : Call → Prop
  | .importFile .. => True
  | _ => False

/-- The path that the user gives a call to write to. -/
def target? : Call → Option String
  | .exportFile _ path => some path
  | .pull _ _ path => some path
  | .exportJson _ path => path
  | _ => none

end Call

namespace Session.Demand

/-- A demand that makes a whole file the text of a document. -/
def IsImport : Demand → Prop
  | .call c => c.IsImport
  | .path _ => False

/-- The path that the user gives with a demand, to be written to. -/
def target? : Demand → Option String
  | .call c => c.target?
  | .path _ => none

end Session.Demand

namespace Rule

variable {r : Rule} {home : Home} {cwd : Place} {s : Session}

/-- What the rule asks of a demand: of an import, that any text may be a
document's; of a path to be written to, that the texts of documents may lie
there. -/
structure Permits (r : Rule) (home : Home) (cwd : Place) (d : Session.Demand) : Prop where
  imports : d.IsImport → ∀ t, r.text t
  writes : ∀ path, d.target? = some path → ∀ t, r.text t → (r.law home cwd).AllowsAt path t

/-- Every operation keeps to the rule. -/
theorem upholds_call (hs : r.Holds home s) {c : Call} (hc : r.Permits home cwd (.call c)) :
    (s.call c).Upholds (r.law home cwd) fun x => r.Holds home x.1 := by
  cases c with
  | init => exact upholds_init hs
  | select label address => exact upholds_select hs label address
  | insert label address text => exact upholds_insert hs label address text
  | update label address text => exact upholds_update hs label address text
  | delete label address => exact upholds_deleteScroll hs label address
  | list label => exact upholds_listSession hs label
  | goTo label address => exact upholds_goToAddress hs label address
  | jump label axis value => exact upholds_jump hs label axis value
  | step label axis forward => exact upholds_step hs label axis forward
  | raw label => exact upholds_raw hs label
  | normalize label => exact upholds_normalize hs label
  | importFile label path => exact upholds_importFile hs (hc.imports trivial) label path
  | exportFile label path => exact upholds_exportFile hs (hc.writes path rfl) label
  | push label address path => exact upholds_push hs label address path
  | pull label address path => exact upholds_pull hs (hc.writes path rfl) label address
  | slurp label address directory => exact upholds_slurp hs label address directory
  | exportJson label path => exact upholds_exportJson hs label path hc.writes
  | contents label => exact upholds_contents hs label
  | documents => exact upholds_documents hs
  | remove label => exact upholds_remove hs label
  | configure request => exact upholds_configure hs request

theorem upholds_meet (hs : r.Holds home s) {d : Session.Demand} (hd : r.Permits home cwd d) :
    (s.meet d).Upholds (r.law home cwd) (r.Holds home) := by
  cases d with
  | call c => exact (upholds_call hs hd).bind fun _ hx => Act.upholds_pure hx
  | path label =>
    exact (Act.upholds_quiet (s.catalog.quiet_path _)).bind fun _ _ => Act.upholds_pure hs

/-- A demand, met or not, leads from a session that keeps to the rule to one
that does. -/
theorem holds_goOn (hs : r.Holds home s) {w : World} (hw : w.files.Obeys (r.law home w.cwd))
    {d : Session.Demand} (hd : r.Permits home w.cwd d) :
    r.Holds home (s.goOn d w).1 ∧
      (s.goOn d w).2.files.Obeys (r.law home (s.goOn d w).2.cwd) := by
  obtain ⟨hafter, hresult⟩ := upholds_meet hs hd w ⟨rfl, hw⟩
  have hcwd := Act.cwd_perform (s.meet d) w
  unfold Session.goOn
  cases hrun : (s.meet d).perform w with
  | mk result w' =>
    rw [hrun] at hafter hresult hcwd
    have hobeys : w'.files.Obeys (r.law home w'.cwd) := hcwd ▸ hafter.files
    cases result with
    | ok s' => exact ⟨hresult s' rfl, hobeys⟩
    | error e => exact ⟨hs, hobeys⟩

end Rule

/-! ## Runs -/

namespace Session

/-- Where a session and its world come to: by the demands that may be made of
it, and by what others do to the world. -/
inductive Reaches (may : World → Demand → Prop) (others : World → World → Prop) (s : Session)
    (w : World) : Session → World → Prop where
  | start : Reaches may others s w s w
  | demand {s' w'} (d : Demand) : Reaches may others s w s' w' → may w' d →
      Reaches may others s w (s'.goOn d w').1 (s'.goOn d w').2
  | others {s' w' w''} : Reaches may others s w s' w' → others w' w'' →
      Reaches may others s w s' w''

variable {may : World → Demand → Prop} {others : World → World → Prop} {r : Rule} {home : Home}
  {s s' : Session} {w w' : World}

/-- What keeps to a rule at first keeps to it all along. -/
theorem Reaches.holds (h : s.Reaches may others w s' w') (hs : r.Holds home s)
    (hw : w.files.Obeys (r.law home w.cwd))
    (hmay : ∀ w d, may w d → r.Permits home w.cwd d)
    (hothers : ∀ w w', others w w' → w.files.Obeys (r.law home w.cwd) →
      w'.files.Obeys (r.law home w'.cwd)) :
    r.Holds home s' ∧ w'.files.Obeys (r.law home w'.cwd) := by
  induction h with
  | start => exact ⟨hs, hw⟩
  | demand d _ hd ih => exact Rule.holds_goOn ih.1 ih.2 (hmay _ d hd)
  | others _ hchange ih => exact ⟨ih.1, hothers _ _ hchange ih.2⟩

end Session

/-! ## Homes -/

/-- The directory of a catalog, if it is on disk. -/
def Catalog.store? : Catalog → Option String
  | .memory _ => none
  | .disk store => some store

/-- Where the files of a session lie. -/
def Session.home (s : Session) : Home := ⟨s.root, s.catalog.store?⟩

/-- A store without documents: in memory it has none, and on disk no texts lie
where those of documents do, and an index that can be read is empty. -/
def Catalog.Blank (w : World) : Catalog → Prop
  | .memory m => m = .empty
  | .disk store =>
    (∀ content t, w.files.at? (Path.place w.cwd (Disk.indexPath store)) = some (.file content) →
      Text.ofBytes? content = some t → (Reading.whole Index.read t).Yields (· = .empty)) ∧
    ∀ id, w.files.at? (Path.place w.cwd (Disk.textPath store id)) = none

/-- The files of a session are spared: what lies at their places is the same in
two worlds. -/
structure Session.SparedIn (s : Session) (w w' : World) : Prop where
  cwd : w'.cwd = w.cwd
  files : ∀ path, s.Own path → w'.files.at? (Path.place w.cwd path) =
    w.files.at? (Path.place w.cwd path)

namespace Rule

variable {r : Rule} {s : Session} {w w' : World}

theorem stocks_of_blank (h : s.catalog.Blank w) : r.Stocks s.home s.catalog := by
  obtain ⟨catalog, root, settings⟩ := s
  cases catalog with
  | memory m =>
    refine ⟨rfl, fun kept doc hdoc => ?_⟩
    obtain rfl : m = .empty := h
    cases hdoc
  | disk store => rfl

/-- In a store without documents only the settings matter to the law. -/
theorem obeys_of_blank (h : s.catalog.Blank w)
    (hsettings : ∀ content t, w.files.at? (Path.place w.cwd (Settings.path s.root)) =
      some (.file content) → Text.ofBytes? content = some t →
        (Reading.whole Settings.read t).Yields r.Suits) :
    w.files.Obeys (r.law s.home w.cwd) := by
  intro p content t hat ht
  refine ⟨fun hp => hsettings content t (hp ▸ hat) ht, fun store hstore => ?_⟩
  obtain ⟨catalog, root, settings⟩ := s
  cases catalog with
  | memory m => cases hstore
  | disk store' =>
    obtain rfl : store' = store := Option.some.inj hstore
    refine ⟨fun hp => (h.1 content t (hp ▸ hat) ht).mono ?_, fun id hp => ?_⟩
    · rintro index rfl
      exact lists_empty
    · rw [hp, h.2 id] at hat
      cases hat

/-- Where the files of a session are spared, the law is obeyed as before. -/
theorem obeys_of_spared (h : s.SparedIn w w') (hw : w.files.Obeys (r.law s.home w.cwd)) :
    w'.files.Obeys (r.law s.home w'.cwd) := by
  intro p content t hat ht
  rw [h.cwd]
  have hsame : ∀ path, s.Own path → p = Path.place w.cwd path →
      (r.law s.home w.cwd).allows p t := by
    rintro path hown rfl
    rw [h.files path hown] at hat
    exact hw hat ht
  refine ⟨fun hp => (hsame _ (.inl rfl) hp).1 hp, fun store hstore => ?_⟩
  have hown : ∀ path, Disk.Own store path → s.Own path := by
    obtain ⟨catalog, root, settings⟩ := s
    cases catalog with
    | memory m => cases hstore
    | disk store' =>
      obtain rfl : store' = store := Option.some.inj hstore
      exact fun _ => Or.inr
  exact ⟨fun hp => ((hsame _ (hown _ ⟨_, .inl rfl, .inl rfl⟩) hp).2 store hstore).1 hp,
    fun id hp => ((hsame _ (hown _ (Disk.own_textPath store id)) hp).2 store hstore).2 id hp⟩

end Rule

end Ninefold
