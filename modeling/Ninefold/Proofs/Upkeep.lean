import Mathlib
import Ninefold.Proofs.Rule
import Ninefold.Session.Call

/-!
# Operations keep to a rule

A session keeps to a rule if its settings suit the rule and its documents, in
memory or in files that obey the law of the rule, are such as the rule allows.
Each operation leaves such a session, whatever it is given; only a file that is
imported, or one that is written where the session itself reads, needs a
permission of its own. What a catalog lists it keeps under some label, so the
rule also speaks of what is listed.
-/

namespace Ninefold

/-! ## What is listed is kept under a label -/

namespace Disk

variable {store label : String} {index : Index} {record : Record} {w w₁ : World}

/-- A listed record is in the index. -/
theorem get?_of_list {records : List Record} (hlist : ((list store).perform w).1 = .ok records)
    (hrecord : record ∈ records) :
    ∃ index w₁ kept, (loadIndex store).perform w = (.ok index, w₁) ∧
      index.get? kept = some record := by
  rw [list, Act.perform_bind_ok (Act.perform_send _ w)] at hlist
  have hworld : (w.answer (.isThere store)).2 = w := rfl
  cases hthere : (w.answer (.isThere store)).1 with
  | false =>
    rw [hthere] at hlist
    cases hlist
    cases hrecord
  | true =>
    rw [hthere, if_pos rfl, hworld] at hlist
    obtain ⟨index, w₁, hload⟩ := Act.perform_of_bind_ok (Prod.ext hlist rfl)
    rw [Act.perform_bind_ok hload] at hlist
    cases hlist
    obtain ⟨⟨kept, _⟩, hentry, rfl⟩ := List.mem_map.mp (List.mem_mergeSort.mp hrecord)
    exact ⟨index, w₁, kept, hload, Table.get?_eq_some_iff.mpr hentry⟩

theorem perform_path (hload : (loadIndex store).perform w = (.ok index, w₁))
    (hget : index.get? label = some record) :
    ((path store label).perform w).1 = .ok (textPath store record.id) := by
  rw [path, Act.perform_bind_ok hload, hget]
  rfl

/-- A document that is fetched has the record that the index has. -/
theorem record_of_fetch? {found : Option Stored}
    (hload : (loadIndex store).perform w = (.ok index, w₁))
    (hget : index.get? label = some record)
    (hfetch : ((fetch? store label).perform w).1 = .ok found) :
    ∃ raw, found = some ⟨record, raw⟩ := by
  have hworld : (w₁.answer (.isThere (textPath store record.id))).2 = w₁ := rfl
  simp only [fetch?, Act.perform_bind_ok hload, hget,
    Act.perform_bind_ok (Act.perform_send _ w₁), hworld] at hfetch
  split at hfetch
  · obtain ⟨raw, w₂, hread⟩ := Act.perform_of_bind_ok (Prod.ext hfetch rfl)
    rw [Act.perform_bind_ok hread] at hfetch
    cases hfetch
    exact ⟨raw, rfl⟩
  · cases hfetch
    exact ⟨[], rfl⟩

end Disk

namespace Catalog

variable {c : Catalog} {kept : String} {record : Record} {w : World}

/-- A catalog has a record under a label. -/
def Knows (c : Catalog) (w : World) (kept : String) (record : Record) : Prop :=
  match c with
  | .memory m => ∃ raw, m.fetch? kept = some ⟨record, raw⟩
  | .disk store => ∃ index w₁, (Disk.loadIndex store).perform w = (.ok index, w₁) ∧
      index.get? kept = some record

/-- Where a catalog says that the text of a document lies. -/
def location (c : Catalog) (record : Record) : String :=
  match c with
  | .memory _ => "memory://phext-" ++ record.id.asString
  | .disk store => Disk.textPath store record.id

theorem knows_of_list {records : List Record} (hlist : (c.list.perform w).1 = .ok records)
    (hrecord : record ∈ records) : ∃ kept, c.Knows w kept record := by
  cases c with
  | memory m =>
    cases hlist
    obtain ⟨doc, hdoc, rfl⟩ := List.mem_map.mp hrecord
    obtain ⟨⟨kept, _⟩, hentry, rfl⟩ := List.mem_map.mp hdoc
    exact ⟨kept, _, Table.get?_eq_some_iff.mpr hentry⟩
  | disk store =>
    obtain ⟨index, w₁, kept, hload, hget⟩ := Disk.get?_of_list hlist hrecord
    exact ⟨kept, index, w₁, hload, hget⟩

theorem Knows.path (h : c.Knows w kept record) :
    ((c.path kept).perform w).1 = .ok (c.location record) := by
  cases c with
  | memory m =>
    obtain ⟨raw, hfetch⟩ := h
    rw [Catalog.path, Memory.path, hfetch]
    rfl
  | disk store =>
    obtain ⟨index, w₁, hload, hget⟩ := h
    exact Disk.perform_path hload hget

theorem Knows.fetch? {found : Option Stored} (h : c.Knows w kept record)
    (hfetch : ((c.fetch? kept).perform w).1 = .ok found) : ∃ raw, found = some ⟨record, raw⟩ := by
  cases c with
  | memory m =>
    obtain ⟨raw, hkept⟩ := h
    cases hfetch
    exact ⟨raw, hkept⟩
  | disk store =>
    obtain ⟨index, w₁, hload, hget⟩ := h
    exact Disk.record_of_fetch? hload hget hfetch

end Catalog

/-! ## Documents, labels and places that operations begin with -/

namespace Rule

variable {r : Rule} {home : Home} {cwd : Place}

/-- A catalog that is kept where a home says, with documents that the rule
allows as far as they are in memory. -/
def Stocks (r : Rule) (home : Home) : Catalog → Prop
  | .memory m => home.store? = none ∧ ∀ kept doc, m.fetch? kept = some doc → r.Keeps kept doc
  | .disk store => home.store? = some store

/-- A session that keeps to the rule, as far as it is not in files. -/
structure Holds (r : Rule) (home : Home) (s : Session) : Prop where
  root : s.root = home.root
  catalog : r.Stocks home s.catalog
  settings : r.Suits s.settings

section Catalog

variable {c : Catalog} (hc : r.Stocks home c)

include hc

theorem upholds_fetchFrom? (label : String) :
    (c.fetch? label).Upholds (r.law home cwd)
      fun found => ∀ doc, found = some doc → r.Keeps label doc := by
  cases c with
  | memory m => exact Act.upholds_pure fun doc hdoc => hc.2 label doc hdoc
  | disk store => exact upholds_fetch? hc label

theorem upholds_fetchFrom (label : String) :
    (c.fetch label).Upholds (r.law home cwd) (r.Keeps label) := by
  refine (upholds_fetchFrom? hc label).bind fun found hfound => ?_
  cases found with
  | none => exact Act.upholds_throw _
  | some doc => exact Act.upholds_pure (hfound doc rfl)

theorem upholds_fetchOrStartFrom {label : String} (hlabel : r.label label label) :
    (c.fetchOrStart label).Upholds (r.law home cwd) (r.Keeps label) := by
  refine (upholds_fetchFrom? hc label).bind fun found hfound => ?_
  cases found with
  | none =>
    refine (Act.upholds_send .now trivial).bind fun now _ => ?_
    refine (Act.upholds_send .newId trivial).bind fun id _ => ?_
    exact Act.upholds_pure (keeps_fresh hlabel now id)
  | some doc => exact Act.upholds_pure (hfound doc rfl)

/-- What a catalog has under a label, the rule allows under that label. -/
theorem admits_of_knows {kept : String} {record : Record} {w : World}
    (hw : w.Obeys (r.law home cwd)) (h : c.Knows w kept record) : r.Admits kept record := by
  cases c with
  | memory m =>
    obtain ⟨raw, hfetch⟩ := h
    exact (hc.2 kept _ hfetch).admits
  | disk store =>
    obtain ⟨index, w₁, hload, hget⟩ := h
    exact (upholds_loadIndex hc w hw).2 index (by rw [hload]) kept record hget

theorem upholds_saveIn {kept : String} {doc : Stored} (h : r.Keeps kept doc) :
    (c.save doc).Upholds (r.law home cwd) (r.Stocks home) := by
  cases c with
  | memory m =>
    refine Act.upholds_pure ⟨hc.1, fun label found hfound => ?_⟩
    rw [Memory.fetch?_save] at hfound
    split at hfound
    next hlabel =>
      cases hfound
      exact hlabel ▸ h.self
    next => exact hc.2 label found hfound
  | disk store => exact (upholds_save hc h).bind fun _ _ => Act.upholds_pure hc

theorem upholds_deleteFrom (label : String) :
    (c.delete label).Upholds (r.law home cwd) (r.Stocks home) := by
  cases c with
  | memory m =>
    refine Act.Upholds.bind (P := fun m' => ∀ kept doc, Memory.fetch? m' kept = some doc →
      r.Keeps kept doc) (Act.upholds_ofExcept fun m' hm' => ?_) fun m' hm' =>
        Act.upholds_pure ⟨hc.1, hm'⟩
    unfold Memory.delete at hm'
    split at hm'
    · cases hm'
      intro kept doc hdoc
      rw [Memory.fetch?_erase] at hdoc
      split at hdoc
      · cases hdoc
      · exact hc.2 kept doc hdoc
    · cases hm'
  | disk store => exact (upholds_delete hc label).bind fun _ _ => Act.upholds_pure hc

end Catalog

/-! ## Parts of operations -/

theorem upholds_requested (address : Option String) :
    (requested address).Upholds (r.law home cwd)
      fun request => ∀ c, request = some c → r.place c := by
  cases address with
  | none => exact Act.upholds_pure fun _ h => by cases h
  | some a =>
    refine (Act.upholds_notes _).bind fun _ _ => ?_
    exact Act.upholds_pure fun c hc => Option.some.inj hc ▸ r.place_ofAddress a

theorem upholds_noteReading (doc : Document) (times : Nat) :
    (doc.noteReading times).Upholds (r.law home cwd) fun _ => True :=
  Act.upholds_quiet (doc.quiet_noteReading times)

theorem upholds_readSource (path : String) :
    (Act.readSource path).Upholds (r.law home cwd) fun _ => True :=
  Act.upholds_quiet (Act.quiet_readSource path)

theorem upholds_edited {edit : Except Char Document} (doc : Document)
    (hd : doc.delimiters = .standard) (h : ∀ d, edit = .ok d → d.WovenAs doc) :
    (Act.edited edit).Upholds (r.law home cwd)
      fun d => d.delimiters = .standard ∧ r.text d.raw := by
  refine Act.upholds_ofExcept fun d hmap => ?_
  cases edit with
  | error ch => cases hmap
  | ok d' =>
    cases hmap
    refine ⟨?_, text_of_wovenAs (h d rfl) hd⟩
    obtain ⟨cells, -, -, rfl⟩ := h d rfl
    rw [Document.delimiters_ofCells, hd]

/-- A step of the odometer is one on some axis. -/
theorem place_successor {c c' : Coordinate} (h : r.place c) (hc' : c.successor = some c') :
    r.place c' := by
  obtain ⟨a, -, rfl⟩ := Option.map_eq_some_iff.mp hc'
  exact r.place_next a h

/-- A filling that the rule allows so far, with a place for the next file that
it allows. -/
structure Fills (r : Rule) (f : Session.Filling) : Prop where
  delimiters : f.document.delimiters = .standard
  text : r.text f.document.raw
  free : ∀ c, f.free = some c → r.place c

theorem fills_start {d : Document} (hd : d.delimiters = .standard) (htext : r.text d.raw)
    {first : Coordinate} (hfirst : r.place first) : r.Fills (.start d first) :=
  ⟨hd, htext, fun _ hc => Option.some.inj hc ▸ hfirst⟩

theorem Fills.skip {f : Session.Filling} (h : r.Fills f) (name : String) : r.Fills (f.skip name) :=
  ⟨h.delimiters, h.text, h.free⟩

section Session

variable {s : Session} (hs : r.Holds home s)

include hs

theorem upholds_fetch (label : Option String) :
    (s.fetch label).Upholds (r.law home cwd) (r.Keeps (s.settings.resolveLabel label)) :=
  upholds_fetchFrom hs.catalog _

theorem upholds_fetchOrStart (label : Option String) :
    (s.fetchOrStart label).Upholds (r.law home cwd) (r.Keeps (s.settings.resolveLabel label)) :=
  upholds_fetchOrStartFrom hs.catalog (hs.settings.resolveLabel label)

theorem upholds_saveSession {kept : String} {doc : Stored} (h : r.Keeps kept doc) :
    (s.save doc).Upholds (r.law home cwd) (r.Holds home) :=
  (upholds_saveIn hs.catalog h).bind fun _ hc => Act.upholds_pure ⟨hs.root, hc, hs.settings⟩

theorem upholds_standing (label : Option String) :
    (s.standing label).Upholds (r.law home cwd) r.place := by
  refine (upholds_fetchFrom? hs.catalog _).bind fun found hfound => ?_
  cases found with
  | none => exact Act.upholds_pure r.place_origin
  | some doc => exact Act.upholds_pure (hfound doc rfl).admits.place

/-- An operation that answers with the session it was given. -/
theorem upholds_answer (reply : Reply) :
    (pure (s, reply) : Act (Session × Reply)).Upholds (r.law home cwd) fun x => r.Holds home x.1 :=
  Act.upholds_pure hs

/-! ## Reading and moving -/

theorem upholds_select (label address : Option String) :
    (s.select label address).Upholds (r.law home cwd) fun x => r.Holds home x.1 :=
  (upholds_requested address).bind fun _ _ => (upholds_fetch hs label).bind fun doc _ =>
    (upholds_noteReading doc.document 1).bind fun _ _ => upholds_answer hs _

theorem upholds_listSession (label : Option String) :
    (s.list label).Upholds (r.law home cwd) fun x => r.Holds home x.1 :=
  (upholds_fetch hs label).bind fun doc _ =>
    (upholds_noteReading doc.document 1).bind fun _ _ => upholds_answer hs _

theorem upholds_contents (label : Option String) :
    (s.contents label).Upholds (r.law home cwd) fun x => r.Holds home x.1 :=
  (upholds_fetch hs label).bind fun doc _ =>
    (upholds_noteReading doc.document 1).bind fun _ _ => upholds_answer hs _

theorem upholds_raw (label : Option String) :
    (s.raw label).Upholds (r.law home cwd) fun x => r.Holds home x.1 :=
  (upholds_fetch hs label).bind fun _ _ => upholds_answer hs _

theorem upholds_documents : s.documents.Upholds (r.law home cwd) fun x => r.Holds home x.1 :=
  (Act.upholds_quiet s.catalog.quiet_list).bind fun _ _ => upholds_answer hs _

theorem upholds_goTo (label : Option String) {target : Coordinate} (htarget : r.place target) :
    (s.goTo label target).Upholds (r.law home cwd) fun x => r.Holds home x.1 := by
  refine (upholds_fetchOrStart hs label).bind fun doc hdoc => ?_
  refine (upholds_saveSession hs (hdoc.moveTo htarget)).bind fun s' hs' => ?_
  exact (upholds_noteReading doc.document 1).bind fun _ _ => Act.upholds_pure hs'

theorem upholds_goToAddress (label : Option String) (address : String) :
    (s.goToAddress label address).Upholds (r.law home cwd) fun x => r.Holds home x.1 :=
  (Act.upholds_notes _).bind fun _ _ =>
    upholds_goTo hs label (r.place_ofAddress address)

theorem upholds_jump (label : Option String) (axis : String) (value : Nat) :
    (s.jump label axis value).Upholds (r.law home cwd) fun x => r.Holds home x.1 := by
  refine (Act.upholds_quiet (Session.quiet_axisNamed axis)).bind fun a _ => ?_
  refine (upholds_standing hs label).bind fun here hhere => ?_
  refine (Act.upholds_notes _).bind fun _ _ => ?_
  exact upholds_goTo hs label (r.place_set a value hhere)

theorem upholds_step (label : Option String) (axis : String) (forward : Bool) :
    (s.step label axis forward).Upholds (r.law home cwd) fun x => r.Holds home x.1 := by
  refine (Act.upholds_quiet (Session.quiet_axisNamed axis)).bind fun a _ => ?_
  refine (upholds_standing hs label).bind fun here hhere => ?_
  refine upholds_goTo hs label ?_
  cases forward with
  | true => exact r.place_next a hhere
  | false => exact r.place_previous a hhere

/-! ## Writing -/

/-- An edited document is saved with a new time. -/
theorem upholds_saveText {kept : String} {doc : Stored} (hdoc : r.Keeps kept doc) {t : Text}
    (ht : r.text t) (finish : Stored → Stored)
    (hfinish : ∀ {doc}, r.Keeps kept doc → r.Keeps kept (finish doc)) (reply : Reply) :
    (do
      let s ← s.save (finish (doc.withText t (← Act.send .now)))
      return (s, reply) : Act (Session × Reply)).Upholds (r.law home cwd)
        fun x => r.Holds home x.1 :=
  (Act.upholds_send .now trivial).bind fun now _ =>
    (upholds_saveSession hs (hfinish (hdoc.withText ht now))).bind fun _ hs' =>
      Act.upholds_pure hs'

theorem upholds_insert (label address : Option String) (t : Text) :
    (s.insert .ordinary label address t).Upholds (r.law home cwd) fun x => r.Holds home x.1 := by
  refine (upholds_requested address).bind fun request hrequest => ?_
  refine (upholds_fetchOrStart hs label).bind fun doc hdoc => ?_
  refine (upholds_edited doc.document rfl fun d => Document.wovenAs_append).bind
    fun after hafter => ?_
  refine (upholds_noteReading doc.document 2).bind fun _ _ => ?_
  exact upholds_saveText hs hdoc hafter.2 (·.moveTo _) (fun h => h.moveTo (hdoc.target hrequest)) _

theorem upholds_update (label address : Option String) (t : Text) :
    (s.update .ordinary label address t).Upholds (r.law home cwd) fun x => r.Holds home x.1 := by
  refine (upholds_requested address).bind fun request hrequest => ?_
  refine (upholds_fetchOrStart hs label).bind fun doc hdoc => ?_
  refine (upholds_edited doc.document rfl fun d => Document.wovenAs_replace).bind
    fun after hafter => ?_
  refine (upholds_noteReading doc.document 1).bind fun _ _ => ?_
  exact upholds_saveText hs hdoc hafter.2 (·.moveTo _) (fun h => h.moveTo (hdoc.target hrequest)) _

theorem upholds_deleteScroll (label address : Option String) :
    (s.delete .ordinary label address).Upholds (r.law home cwd) fun x => r.Holds home x.1 := by
  refine (upholds_requested address).bind fun request _ => ?_
  refine (upholds_fetch hs label).bind fun doc hdoc => ?_
  refine (upholds_noteReading doc.document 2).bind fun _ _ => ?_
  exact upholds_saveText hs hdoc
    (text_of_wovenAs (doc.document.wovenAs_remove (doc.target request)) rfl)
    id (fun h => h) _

theorem upholds_normalize (label : Option String) :
    (s.normalize label).Upholds (r.law home cwd) fun x => r.Holds home x.1 := by
  refine (upholds_fetch hs label).bind fun doc hdoc => ?_
  refine (upholds_noteReading doc.document 1).bind fun _ _ => ?_
  split
  · exact upholds_answer hs _
  · exact upholds_saveText hs hdoc (text_of_wovenAs doc.document.wovenAs_normalize rfl)
      id (fun h => h) _

/-! ## Files in and out -/

/-- A whole text that is imported becomes that of a document, so the rule has
to allow whatever the file holds. -/
theorem upholds_importFile (htext : ∀ t, r.text t) (label : Option String) (path : String) :
    (s.importFile label path).Upholds (r.law home cwd) fun x => r.Holds home x.1 := by
  refine (upholds_readSource path).bind fun t _ => ?_
  refine (upholds_fetchOrStart hs label).bind fun doc hdoc => ?_
  exact upholds_saveText hs hdoc (htext t) id (fun h => h) _

theorem upholds_push (label address : Option String) (path : String) :
    (s.push .ordinary label address path).Upholds (r.law home cwd) fun x => r.Holds home x.1 := by
  refine (upholds_requested address).bind fun request hrequest => ?_
  refine (upholds_readSource path).bind fun t _ => ?_
  refine (upholds_fetchOrStart hs label).bind fun doc hdoc => ?_
  refine (upholds_edited doc.document rfl fun d => Document.wovenAs_replace).bind
    fun after hafter => ?_
  refine (upholds_noteReading doc.document 1).bind fun _ _ => ?_
  exact upholds_saveText hs hdoc hafter.2 (·.moveTo _) (fun h => h.moveTo (hdoc.target hrequest)) _

section Export

variable {path : String} (hpath : ∀ t, r.text t → (r.law home cwd).AllowsAt path t)

include hpath

theorem upholds_exportFile (label : Option String) :
    (s.exportFile label path).Upholds (r.law home cwd) fun x => r.Holds home x.1 :=
  (upholds_fetch hs label).bind fun doc hdoc =>
    (Act.upholds_writeText (hpath doc.raw hdoc.text)).bind fun _ _ => upholds_answer hs _

theorem upholds_pull (label address : Option String) :
    (s.pull label address path).Upholds (r.law home cwd) fun x => r.Holds home x.1 := by
  refine (upholds_requested address).bind fun request _ => ?_
  refine (upholds_fetch hs label).bind fun doc _ => ?_
  refine (upholds_noteReading doc.document 1).bind fun _ _ => ?_
  refine (Act.upholds_writeText (hpath _ (r.text_plain ?_))).bind fun _ _ => upholds_answer hs _
  cases hselect : doc.document.select (doc.target request) with
  | none => rfl
  | some t => exact Document.firstReserved?_select hselect

end Export

/-- What is exported as JSON is plain. -/
theorem upholds_exportJson (label path : Option String)
    (hpath : ∀ p, path = some p → ∀ t, r.text t → (r.law home cwd).AllowsAt p t) :
    (s.exportJson label path).Upholds (r.law home cwd) fun x => r.Holds home x.1 := by
  refine (upholds_fetch hs label).bind fun doc _ => ?_
  refine (upholds_noteReading doc.document 1).bind fun _ _ => ?_
  cases path with
  | none => exact upholds_answer hs _
  | some p =>
    have hplain : ∀ d : Json.Draft, (r.law home cwd).AllowsAt p d.pretty :=
      fun d => hpath p rfl _ (r.text_plain d.firstReserved?_pretty)
    exact (Act.upholds_writeText (hplain _)).bind fun _ _ => upholds_answer hs _

/-! ## Filling scrolls from a directory -/

omit hs in
theorem upholds_place {f : Session.Filling} (hf : r.Fills f) (name : String) (t : Text) :
    (f.place .ordinary name t).Upholds (r.law home cwd) r.Fills := by
  unfold Session.Filling.place
  split
  · exact Act.upholds_throw _
  next c hfree =>
    refine (Act.upholds_notes _).bind fun _ _ => ?_
    refine (upholds_edited f.document hf.delimiters fun d => Document.wovenAs_replace).bind
      fun after hafter => ?_
    refine (upholds_noteReading f.document 1).bind fun _ _ => ?_
    exact Act.upholds_pure ⟨hafter.1, hafter.2, fun c' hc' =>
      place_successor (hf.free c hfree) hc'⟩

omit hs in
theorem upholds_takeFile {f : Session.Filling} (hf : r.Fills f) (directory name : String) :
    (f.takeFile .ordinary directory name).Upholds (r.law home cwd) r.Fills := by
  refine (Act.upholds_send (.read (Path.child directory name)) trivial).bind fun content _ => ?_
  split
  · exact Act.upholds_pure (hf.skip name)
  · split
    · exact Act.upholds_pure (hf.skip name)
    · exact upholds_place hf name _

omit hs in
/-- File after file. -/
theorem upholds_takeFiles (directory : String) (names : List String) {f : Session.Filling}
    (hf : r.Fills f) :
    (Session.Filling.takeFiles .ordinary directory names f).Upholds (r.law home cwd) r.Fills := by
  induction names generalizing f with
  | nil => exact Act.upholds_pure hf
  | cons name rest ih => exact (upholds_takeFile hf directory name).bind fun f' hf' => ih hf'

theorem upholds_slurp (label address : Option String) (directory : String) :
    (s.slurp .ordinary label address directory).Upholds (r.law home cwd)
      fun x => r.Holds home x.1 := by
  refine (upholds_requested address).bind fun request hrequest => ?_
  refine (Act.upholds_quiet (Session.quiet_namesIn directory)).bind fun listed _ => ?_
  refine (Act.upholds_quiet (Session.quiet_filesOf directory listed)).bind fun names _ => ?_
  refine (upholds_fetchOrStart hs label).bind fun doc hdoc => ?_
  have hfirst := hdoc.target hrequest
  refine (upholds_takeFiles directory names
    (fills_start (d := doc.document) rfl hdoc.text hfirst)).bind fun filled hfilled => ?_
  exact upholds_saveText hs hdoc hfilled.text (·.moveTo _) (fun h => h.moveTo hfirst) _

/-! ## The store and its settings -/

theorem upholds_init : s.init.Upholds (r.law home cwd) fun x => r.Holds home x.1 :=
  (Act.upholds_makeDirectories s.root).bind fun _ _ => upholds_answer hs _

theorem upholds_remove (label : Option String) :
    (s.remove label).Upholds (r.law home cwd) fun x => r.Holds home x.1 :=
  (upholds_deleteFrom hs.catalog _).bind fun _ hc =>
    Act.upholds_pure ⟨hs.root, hc, hs.settings⟩

omit hs in
theorem upholds_changeSettings {after : Except Settings.Fault Settings}
    (hafter : ∀ settings, after = .ok settings → r.Suits settings) (message : Settings → String) :
    (s.change after message).Upholds (r.law home cwd) fun x => r.Suits x.1 := by
  have hsettings : (Act.ofExcept (after.mapError Failure.setting)).Upholds (r.law home cwd)
      r.Suits := by
    refine Act.upholds_ofExcept fun settings hmap => ?_
    cases after with
    | error e => cases hmap
    | ok found =>
      cases hmap
      exact hafter settings rfl
  exact hsettings.bind fun settings hsuits =>
    (upholds_saveSettings hsuits s.root).bind fun _ _ => Act.upholds_pure hsuits

theorem upholds_configure (request : Session.SettingsRequest) :
    (s.configure request).Upholds (r.law home cwd) fun x => r.Holds home x.1 := by
  have hload : (Settings.load s.root).Upholds (r.law home cwd) r.Suits :=
    hs.root ▸ upholds_loadSettings
  have hanswer : ∀ x : Settings × List Message, r.Suits x.1 →
      (pure ({ s with settings := x.1 },
        { Reply.empty with messages := x.2, settings := some x.1 }) : Act (Session × Reply)).Upholds
          (r.law home cwd) fun x => r.Holds home x.1 :=
    fun _ hx => Act.upholds_pure ⟨hs.root, hs.catalog, hx⟩
  have hkept : ∀ {before : Settings} (messages : List Message), r.Suits before →
      (pure (before, messages) : Act (Settings × List Message)).Upholds (r.law home cwd)
        fun x => r.Suits x.1 := fun _ hbefore => Act.upholds_pure hbefore
  refine hload.bind fun before hbefore => ?_
  cases request with
  | showAll => exact (hkept _ hbefore).bind hanswer
  | showKey key => exact (hkept _ hbefore).bind hanswer
  | setDefaultLabel value =>
    exact (upholds_changeSettings (fun _ h => suits_of_setDefaultLabel h) _).bind hanswer
  | setPreviewWidth value =>
    exact (upholds_changeSettings (fun _ h => hbefore.setPreviewWidth h) _).bind hanswer

end Session

end Rule

end Ninefold
