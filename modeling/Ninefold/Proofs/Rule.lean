import Mathlib
import Ninefold.Proofs.Law
import Ninefold.Proofs.Reading
import Ninefold.Proofs.Unchanged
import Ninefold.Proofs.Writing

/-!
# Rules for documents

A rule says where documents may stand, what they may be called and what their
texts may be, and it allows all that an operation can make of what it allows.
On disk a rule for documents comes to a law about the files of a store: about
the labels and coordinates in the index, about the texts, and about the default
label in the settings.
-/

namespace Ninefold

/-! ## Texts that documents come to have -/

namespace Document

/-- A document is woven from cells, under the delimiters of another. -/
def WovenAs (d doc : Document) : Prop :=
  ∃ cells : Cells, cells.Plain doc.delimiters ∧ cells.Full ∧ d = doc.ofCells cells

variable {doc d : Document} {c : Coordinate} {t : Text}

theorem wovenAs_replace (h : doc.replace c t = .ok d) : d.WovenAs doc := by
  cases hfree : doc.delimiters.firstReserved? t with
  | some ch =>
    rw [replace_eq_error hfree] at h
    cases h
  | none =>
    rw [replace_eq hfree] at h
    exact ⟨_, doc.plain_cells.write hfree, doc.full_cells.write, (Except.ok.inj h).symm⟩

theorem wovenAs_append (h : doc.append c t = .ok d) : d.WovenAs doc := by
  cases hfree : doc.delimiters.firstReserved? t with
  | some ch =>
    rw [append_eq_error hfree] at h
    cases h
  | none =>
    rw [append, hfree] at h
    exact wovenAs_replace h

theorem wovenAs_remove (doc : Document) (c : Coordinate) : (doc.remove c).WovenAs doc :=
  ⟨doc.cells.write c [], doc.plain_cells.write rfl, doc.full_cells.write, rfl⟩

theorem wovenAs_normalize (doc : Document) : doc.normalize.WovenAs doc :=
  ⟨doc.cells, doc.plain_cells, doc.full_cells, rfl⟩

/-- What is selected was cut out between delimiters. -/
theorem firstReserved?_select (h : doc.select c = some t) :
    doc.delimiters.firstReserved? t = none :=
  Segments.firstReserved?_of_mem_all (Segments.mem_all_of_text? h)

end Document

/-- Written JSON has no delimiter in it. -/
theorem Json.Draft.firstReserved?_pretty (d : Json.Draft) :
    Delimiters.standard.firstReserved? d.pretty = none := by
  have hwild : ∀ a, ¬ Tame (Delimiters.standard.char a) := by
    intro a
    cases a <;> decide
  refine Delimiters.firstReserved?_eq_none_iff.mpr fun c hc a heq => ?_
  exact hwild a (heq ▸ tame_of_mem_indented d 0 c hc)

/-! ## Rules -/

/-- Where documents may stand, what they may be called, by the label that they
are kept under, and what their texts may be. -/
structure Rule where
  place : Coordinate → Prop
  label : String → String → Prop
  text : Text → Prop
  place_origin : place .origin
  place_ofAddress : ∀ a, place (.ofAddress a)
  place_set : ∀ {c} a n, place c → place (c.set a n)
  place_next : ∀ {c} a, place c → place (c.next a)
  place_previous : ∀ {c} a, place c → place (c.previous a)
  label_self : ∀ {kept l}, label kept l → label l l
  label_trimmed : ∀ {l}, trimmed l ≠ "" → label (trimmed l) (trimmed l)
  text_plain : ∀ {t}, Delimiters.standard.firstReserved? t = none → text t
  text_weave : ∀ {cells : Cells}, cells.Plain .standard → cells.Full →
    text (weave .standard cells)

namespace Rule

variable (r : Rule)

/-- A record that the rule allows under a label. -/
structure Admits (kept : String) (record : Record) : Prop where
  place : r.place record.coordinate
  label : r.label kept record.label

/-- A document that the rule allows under a label. -/
structure Keeps (kept : String) (doc : Stored) : Prop where
  admits : r.Admits kept doc.record
  text : r.text doc.raw

/-- An index whose records the rule allows. -/
def Lists (index : Index) : Prop :=
  ∀ kept record, index.get? kept = some record → r.Admits kept record

/-- Settings whose default label a document may have. -/
def Suits (settings : Settings) : Prop := r.label settings.defaultLabel settings.defaultLabel

variable {r : Rule}

/-! ## What the rule allows -/

theorem text_of_wovenAs {d doc : Document} (h : d.WovenAs doc) (hd : doc.delimiters = .standard) :
    r.text d.raw := by
  obtain ⟨cells, hplain, hfull, rfl⟩ := h
  rw [Document.raw_ofCells, hd]
  exact r.text_weave (hd ▸ hplain) hfull

/-- Every label that an operation works out is allowed. -/
theorem Suits.resolveLabel {settings : Settings} (h : r.Suits settings) (label : Option String) :
    r.label (settings.resolveLabel label) (settings.resolveLabel label) := by
  cases label with
  | none => exact h
  | some l =>
    have hresolve : settings.resolveLabel (some l) =
        if (trimmed l).isEmpty then settings.defaultLabel else trimmed l := rfl
    rw [hresolve]
    split
    · exact h
    next hblank => exact r.label_trimmed (by simpa [String.isEmpty_iff] using hblank)

theorem suits_standard : r.Suits .standard := by
  have htrimmed : trimmed "holiday" = "holiday" := rfl
  have h := r.label_trimmed (l := "holiday") (by rw [htrimmed]; decide)
  rwa [htrimmed] at h

theorem suits_of_setDefaultLabel {settings settings' : Settings} {value : String}
    (h : settings.setDefaultLabel value = .ok settings') : r.Suits settings' := by
  obtain ⟨hlabel, rfl⟩ := Settings.setDefaultLabel_eq_ok_iff.mp h
  exact r.label_trimmed hlabel

theorem Suits.setPreviewWidth {settings settings' : Settings} {value : String}
    (hs : r.Suits settings) (h : settings.setPreviewWidth value = .ok settings') :
    r.Suits settings' := by
  obtain ⟨_, -, -, rfl⟩ := Settings.setPreviewWidth_eq_ok_iff.mp h
  exact hs

namespace Keeps

variable {kept : String} {doc : Stored}

/-- What is saved is kept under its own label. -/
theorem self (h : r.Keeps kept doc) : r.Keeps doc.record.label doc :=
  ⟨⟨h.admits.place, r.label_self h.admits.label⟩, h.text⟩

theorem withText (h : r.Keeps kept doc) {t : Text} (ht : r.text t) (now : Instant) :
    r.Keeps kept (doc.withText t now) := ⟨⟨h.admits.place, h.admits.label⟩, ht⟩

theorem moveTo (h : r.Keeps kept doc) {c : Coordinate} (hc : r.place c) :
    r.Keeps kept (doc.moveTo c) := ⟨⟨hc, h.admits.label⟩, h.text⟩

/-- The coordinate that an operation acts on is allowed. -/
theorem target (h : r.Keeps kept doc) {request : Option Coordinate}
    (hrequest : ∀ c, request = some c → r.place c) : r.place (doc.target request) := by
  cases request with
  | none => exact h.admits.place
  | some c => exact hrequest c rfl

end Keeps

theorem keeps_fresh {label : String} (h : r.label label label) (now : Instant) (id : Ident) :
    r.Keeps label (.fresh label now id) := ⟨⟨r.place_origin, h⟩, r.text_plain rfl⟩

theorem lists_empty : r.Lists .empty := fun _ _ h => by cases h

theorem Lists.put {index : Index} (h : r.Lists index) {kept : String} {record : Record}
    (hr : r.Admits kept record) : r.Lists (index.put kept record) := by
  intro kept' record' hget
  rw [Table.get?_put] at hget
  split at hget
  next heq =>
    cases hget
    exact heq ▸ hr
  next => exact h kept' record' hget

theorem Lists.erase {index : Index} (h : r.Lists index) (kept : String) :
    r.Lists (index.erase kept) := by
  intro kept' record' hget
  rw [Table.get?_erase] at hget
  split at hget
  · cases hget
  · exact h kept' record' hget

/-- An index that was written is read as one that the rule allows. -/
theorem Lists.yields {index : Index} (h : r.Lists index) :
    (Reading.whole Index.read index.draft.pretty).Yields r.Lists := by
  refine Reading.yields_whole_pretty (Index.yields_read_draft fun kept record hget => ?_)
  refine (Record.yields_read_draft r.place_origin r.place_ofAddress record).mono ?_
  rintro x ⟨hlabel, hplace⟩
  exact ⟨hplace, hlabel ▸ (h kept record hget).label⟩

/-- Settings that were written are read as some that suit. -/
theorem Suits.yields {settings : Settings} (h : r.Suits settings) :
    (Reading.whole Settings.read settings.draft.pretty).Yields r.Suits := by
  refine Reading.yields_whole_pretty (settings.yields_read_draft.mono fun x hx => ?_)
  rw [Suits, hx]
  exact h

end Rule

/-! ## The law about a session's files -/

/-- Where the files of a session lie: the directory of its settings and, if its
catalog is on disk, that of its catalog. -/
structure Home where
  root : String
  store? : Option String

/-- What a reading comes to is known if what it can come to is. -/
theorem Act.upholds_reading {α : Type} {l : Law} {r : Reading α} {P : α → Prop} (h : r.Yields P) :
    (Act.reading r).Upholds l P := by
  have hresult : ∀ x, r.notes.1 = some x → P x := fun x hx => h [] x hx
  unfold Act.reading
  cases hnotes : r.notes with
  | mk result ns =>
    rw [hnotes] at hresult
    refine (Act.upholds_notes ns).bind fun _ _ => ?_
    cases result with
    | none => exact Act.upholds_throw _
    | some x => exact Act.upholds_pure (hresult x rfl)

theorem Disk.textName_ne_settingsName (id : Ident) : textName id ≠ settingsName := by
  intro h
  have hlength := congrArg (fun s => s.toList.length) h
  rw [length_textName] at hlength
  exact absurd hlength (by decide)

namespace Rule

variable (r : Rule) (home : Home) (cwd : Place)

/-- What the rule comes to for the files of a session. Other files may be
anything. -/
def law : Law where
  cwd := cwd
  allows p t :=
    (p = Path.place cwd (Settings.path home.root) →
      (Reading.whole Settings.read t).Yields r.Suits) ∧
    ∀ store, home.store? = some store →
      (p = Path.place cwd (Disk.indexPath store) →
        (Reading.whole Index.read t).Yields r.Lists) ∧
      ∀ id, p = Path.place cwd (Disk.textPath store id) → r.text t

variable {r home cwd}

/-! ## Rules that leave labels alone -/

section AnyLabel

variable (hlabel : ∀ kept l, r.label kept l)

include hlabel

/-- Any text that is read as an index is read as one that such a rule
allows. -/
theorem yields_lists (t : Text) : (Reading.whole Index.read t).Yields r.Lists :=
  Reading.yields_whole (Index.yields_read (fun _ j =>
    (Record.yields_read r.place_origin r.place_ofAddress j).mono fun _ hplace =>
      ⟨hplace, hlabel _ _⟩) _)

/-- Such a rule allows its texts in any file. -/
theorem allows_of_text {t : Text} (ht : r.text t) (p : Place) : (r.law home cwd).allows p t :=
  ⟨fun _ => (Reading.yields_true _).mono fun _ _ => hlabel _ _,
    fun _ _ => ⟨fun _ => yields_lists hlabel t, fun _ _ => ht⟩⟩

end AnyLabel

/-! ## What may be written where -/

/-- Under a plain name anything may lie that the law does not speak of. -/
theorem allowsAt_child {root name : String} (hn : Path.Plain name) {t : Text}
    (hsettings : name = Disk.settingsName → (Reading.whole Settings.read t).Yields r.Suits)
    (hindex : name = Disk.indexName → (Reading.whole Index.read t).Yields r.Lists)
    (htext : ∀ id, name = Disk.textName id → r.text t) :
    (r.law home cwd).AllowsAt (Path.child root name) t :=
  ⟨fun hp => hsettings (Path.place_child_inj hn Disk.plain_settingsName hp),
    fun _ _ => ⟨fun hp => hindex (Path.place_child_inj hn Disk.plain_indexName hp),
      fun id hp => htext id (Path.place_child_inj hn (Disk.plain_textName id) hp)⟩⟩

theorem allowsAt_hidden {root name : String} (hn : Path.Plain name) (hidden : Disk.Hidden name)
    (t : Text) : (r.law home cwd).AllowsAt (Path.child root name) t :=
  allowsAt_child hn (fun h => absurd (h ▸ hidden) Disk.not_hidden_settingsName)
    (fun h => absurd (h ▸ hidden) Disk.not_hidden_indexName)
    (fun id h => absurd (h ▸ hidden) (Disk.not_hidden_textName id))

/-! ## The files of a store -/

section Disk

variable {store : String} (hstore : home.store? = some store)

theorem upholds_saveIndex {index : Index} (h : r.Lists index) :
    (Disk.saveIndex store index).Upholds (r.law home cwd) fun _ => True := by
  refine Disk.upholds_replaceFile (fun id => ?_) ?_
  · exact allowsAt_hidden (Disk.plain_asideName Disk.nameChar_indexName (by decide) id)
      (Disk.hidden_asideName _ id) _
  · exact allowsAt_child Disk.plain_indexName (fun hname => absurd hname (by decide))
      (fun _ => h.yields) (fun id hname => absurd hname.symm (Disk.textName_ne_indexName id))

theorem upholds_replaceText (id : Ident) {t : Text} (h : r.text t) :
    (Disk.replaceFile store (Disk.textName id) t).Upholds (r.law home cwd) fun _ => True := by
  refine Disk.upholds_replaceFile (fun id' => ?_) ?_
  · exact allowsAt_hidden (Disk.plain_asideName (Disk.nameChar_textName id)
      (by rw [Disk.length_textName]) id') (Disk.hidden_asideName _ id') _
  · exact allowsAt_child (Disk.plain_textName id)
      (fun hname => absurd hname (Disk.textName_ne_settingsName id))
      (fun hname => absurd hname (Disk.textName_ne_indexName id)) (fun _ _ => h)

include hstore

/-- The index of a store is one that the rule allows. -/
theorem upholds_loadIndex : (Disk.loadIndex store).Upholds (r.law home cwd) r.Lists := by
  refine (Act.upholds_send (.isThere (Disk.indexPath store)) trivial).bind fun there _ => ?_
  cases there with
  | false => exact Act.upholds_pure lists_empty
  | true =>
    refine (Act.upholds_readText (Disk.indexPath store)).bind fun t ht => ?_
    exact Act.upholds_reading ((ht.2 store hstore).1 rfl)

/-- A document that is fetched is one that the rule allows under its label. -/
theorem upholds_fetch? (label : String) :
    (Disk.fetch? store label).Upholds (r.law home cwd)
      fun found => ∀ doc, found = some doc → r.Keeps label doc := by
  refine (upholds_loadIndex hstore).bind fun index hindex => ?_
  split
  · exact Act.upholds_pure fun _ h => by cases h
  · next record hget =>
    have hrecord := hindex label record hget
    refine (Act.upholds_send (.isThere (Disk.textPath store record.id)) trivial).bind
      fun there _ => ?_
    cases there with
    | false => exact Act.upholds_pure fun _ h => by cases h; exact ⟨hrecord, r.text_plain rfl⟩
    | true =>
      refine (Act.upholds_readText (Disk.textPath store record.id)).bind fun t ht => ?_
      refine Act.upholds_pure fun _ h => ?_
      cases h
      exact ⟨hrecord, (ht.2 store hstore).2 record.id rfl⟩

theorem upholds_save {kept : String} {doc : Stored} (h : r.Keeps kept doc) :
    (Disk.save store doc).Upholds (r.law home cwd) fun _ => True := by
  rw [Disk.save_eq]
  refine (Disk.upholds_makeRoot store).bind fun _ _ => ?_
  refine (upholds_replaceText doc.record.id h.text).bind fun _ _ => ?_
  refine (upholds_loadIndex hstore).bind fun index hindex => ?_
  refine (upholds_saveIndex (hindex.put h.self.admits)).bind fun _ _ => ?_
  exact (Disk.upholds_discardStale store _ doc.record.id).bind fun _ _ =>
    Act.upholds_send _ trivial

theorem upholds_delete (label : String) :
    (Disk.delete store label).Upholds (r.law home cwd) fun _ => True := by
  refine (upholds_loadIndex hstore).bind fun index hindex => ?_
  split
  · exact Act.upholds_throw _
  · exact (upholds_saveIndex (hindex.erase label)).bind fun _ _ => Disk.upholds_discard _

end Disk

/-! ## The file of settings -/

theorem upholds_loadSettings :
    (Settings.load home.root).Upholds (r.law home cwd) r.Suits := by
  refine (Act.upholds_send (.isThere (Settings.path home.root)) trivial).bind fun there _ => ?_
  cases there with
  | false => exact Act.upholds_pure suits_standard
  | true =>
    refine (Act.upholds_readText (Settings.path home.root)).bind fun t ht => ?_
    exact Act.upholds_reading (ht.1 rfl)

theorem upholds_saveSettings {settings : Settings} (h : r.Suits settings) (root : String) :
    (settings.save root).Upholds (r.law home cwd) fun _ => True := by
  rw [Settings.save_eq]
  refine (Disk.upholds_makeRoot root).bind fun _ _ => Act.upholds_writeText ?_
  exact allowsAt_child Disk.plain_settingsName (fun _ => h.yields)
    (fun hname => absurd hname (by decide))
    (fun id hname => absurd hname.symm (Disk.textName_ne_settingsName id))

end Rule

end Ninefold
