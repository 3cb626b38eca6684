import Mathlib
import Ninefold.Proofs.Disk.Documents

/-!
# Documents saved and deleted

A document is saved text first and index second, and deleted index first and
text second. So the folders on the way hold the catalog before the change, or
the catalog after it; the one in between, where a document is saved under the
identifier it had, holds the new text with the old record. When all is done no
text is left over.
-/

namespace Ninefold

namespace Memory

variable {m : Memory} {doc : Stored}

/-- No document of another label has the identifier of a document. -/
def Free (m : Memory) (doc : Stored) : Prop :=
  ∀ {label old}, m.fetch? label = some old → old.record.id = doc.record.id →
    label = doc.record.label

theorem Filed.save (h : m.Filed) (hkept : doc.record.Kept) (hfree : m.Free doc) :
    (m.save doc).Filed where
  label {label old} hold := by
    rw [fetch?_save] at hold
    split at hold
    · next hl => cases hold; exact hl.symm
    · exact h.label hold
  kept {label old} hold := by
    rw [fetch?_save] at hold
    split at hold
    · cases hold; exact hkept
    · exact h.kept hold
  apart {label label' old old'} hold hold' hid := by
    rw [fetch?_save] at hold hold'
    split at hold
    · next hl =>
      cases hold
      split at hold'
      · next hl' => rw [hl, hl']
      · exact hl.trans (hfree hold' hid.symm).symm
    · split at hold'
      · next hl' =>
        cases hold'
        exact (hfree hold hid).trans hl'.symm
      · exact h.apart hold hold' hid

theorem Filed.erase (h : m.Filed) (label : String) : Filed (m.erase label) where
  label {label' doc} hdoc := by
    rw [fetch?_erase] at hdoc
    split at hdoc
    · cases hdoc
    · exact h.label hdoc
  kept {label' doc} hdoc := by
    rw [fetch?_erase] at hdoc
    split at hdoc
    · cases hdoc
    · exact h.kept hdoc
  apart {label' label'' doc doc'} hdoc hdoc' := by
    rw [fetch?_erase] at hdoc hdoc'
    split at hdoc
    · cases hdoc
    · split at hdoc'
      · cases hdoc'
      · exact h.apart hdoc hdoc'

/-- No document that is left has the identifier of one that was deleted. -/
theorem Filed.ne_of_erase (hm : m.Filed) {label label' : String} {old : Stored}
    (hdoc : m.fetch? label = some doc)
    (hold : fetch? (m.erase label) label' = some old) :
    old.record.id ≠ doc.record.id := by
  intro hsame
  rw [fetch?_erase] at hold
  split at hold
  · cases hold
  · next hl => exact hl (hm.apart hold hdoc hsame)

theorem filed_empty : Filed .empty where
  label h := by cases h
  kept h := by cases h
  apart h := by cases h

theorem erase_of_fetch?_none {label : String} (h : m.fetch? label = none) :
    Table.erase m label = m := by
  refine Table.ext_get? fun label' => ?_
  rw [Table.get?_erase]
  split
  · next hl => rw [hl]; exact h.symm
  · rfl

theorem index_save (m : Memory) (doc : Stored) :
    Index.asWritten (m.index.put doc.record.label doc.record) = (m.save doc).index := by
  refine Table.ext_get? fun label => ?_
  rw [Index.asWritten, Table.get?_map, Table.get?_put, get?_index, get?_index, fetch?_save]
  split
  · rfl
  · cases m.fetch? label with
    | none => rfl
    | some old => exact congrArg some (Record.asWritten_asWritten _)

theorem index_erase (m : Memory) (label : String) :
    Index.asWritten (m.index.erase label) = index (m.erase label) := by
  refine Table.ext_get? fun label' => ?_
  rw [Index.asWritten, Table.get?_map, Table.get?_erase, get?_index, get?_index, fetch?_erase]
  split
  · rfl
  · cases m.fetch? label' with
    | none => rfl
    | some old => exact congrArg some (Record.asWritten_asWritten _)

end Memory

namespace Disk

variable {s : Site} {f g : Folder} {m : Memory} {doc : Stored} {index : Index} {id : Ident}

/-! ## Folders on the way -/

theorem Folder.put_self (f : Folder) (name : String) (content : ByteArray) :
    f.put name content name = some content := if_pos rfl

theorem Folder.put_of_ne {name other : String} (h : other ≠ name) (f : Folder)
    (content : ByteArray) : f.put name content other = f other := if_neg h

theorem Folder.drop_of_ne {name other : String} (h : other ≠ name) (f : Folder) :
    f.drop name other = f other := if_neg h

theorem Folder.Gives.congr (h : f.Gives index) (hfg : g indexName = f indexName) :
    g.Gives index := by
  unfold Folder.Gives
  rw [hfg]
  exact h

/-- A written index is the one that the folder gives. -/
theorem Folder.gives_put_index (f : Folder) {index : Index}
    (h : ∀ label r, index.get? label = some r → r.Kept) :
    (f.put indexName index.draft.pretty.bytes).Gives index.asWritten :=
  .inr ⟨_, f.put_self _ _, Index.gives_whole_pretty h⟩

/-- Texts that no document of the catalog has do not count. -/
theorem Folder.Holds.congr (h : f.Holds m) (hindex : g indexName = f indexName)
    (htexts : ∀ {label doc}, m.fetch? label = some doc →
      g (textName doc.record.id) = f (textName doc.record.id)) : g.Holds m :=
  ⟨h.index.congr hindex, fun hdoc => (htexts hdoc).trans (h.texts hdoc)⟩

/-- Every text is that of a document of the catalog. -/
def Folder.Tidy (f : Folder) (m : Memory) : Prop :=
  ∀ id, (f (textName id)).isSome → ∃ label doc, m.fetch? label = some doc ∧ doc.record.id = id

/-- A text put in the file of an identifier that no document has. -/
theorem Folder.Holds.put_text (h : f.Holds m) (content : ByteArray)
    (hid : ∀ label doc, m.fetch? label = some doc → doc.record.id ≠ id) :
    (f.put (textName id) content).Holds m := by
  refine h.congr (f.put_of_ne (textName_ne_indexName id).symm content) fun hdoc => ?_
  exact f.put_of_ne (fun hname => hid _ _ hdoc (textName_injective hname)) content

/-- A text put in the file of a document of the catalog is its text. -/
theorem Folder.Holds.put_own_text (h : f.Holds m) (hm : m.Filed) {label : String} {old : Stored}
    (hold : m.fetch? label = some old) (raw : Text) :
    (f.put (textName old.record.id) raw.bytes).Holds (m.save ⟨old.record, raw⟩) := by
  have hlabel := hm.label hold
  constructor
  · have hindex : (m.save ⟨old.record, raw⟩).index = m.index := by
      refine Table.ext_get? fun label' => ?_
      rw [Memory.get?_index, Memory.get?_index, Memory.fetch?_save]
      split
      · next hl => rw [hl, hlabel, hold]; rfl
      · rfl
    rw [hindex]
    exact h.index.congr (f.put_of_ne (textName_ne_indexName _).symm _)
  · intro label' doc' hdoc'
    rw [Memory.fetch?_save] at hdoc'
    split at hdoc'
    · cases hdoc'
      exact f.put_self _ _
    · next hl =>
      have hother : doc'.record.id ≠ old.record.id := fun hid =>
        hl ((hm.apart hdoc' hold hid).trans hlabel.symm)
      rw [f.put_of_ne fun hname => hother (textName_injective hname)]
      exact h.texts hdoc'

/-- The index written after the text of a document makes it the catalog's. -/
theorem Folder.holds_put_index (hm : m.Filed) (hkept : doc.record.Kept)
    (htext : f (textName doc.record.id) = some doc.raw.bytes)
    (htexts : ∀ {label old}, label ≠ doc.record.label → m.fetch? label = some old →
      f (textName old.record.id) = some old.raw.bytes) :
    (f.put indexName (Index.draft (m.index.put doc.record.label doc.record)).pretty.bytes).Holds
      (m.save doc) := by
  constructor
  · rw [← Memory.index_save]
    refine f.gives_put_index fun label r hr => ?_
    rw [Table.get?_put] at hr
    split at hr
    · cases hr; exact hkept
    · rw [Memory.get?_index, Option.map_eq_some_iff] at hr
      obtain ⟨old, hold, rfl⟩ := hr
      exact (hm.kept hold).asWritten
  · intro label old hold
    rw [f.put_of_ne (textName_ne_indexName _)]
    rw [Memory.fetch?_save] at hold
    split at hold
    · cases hold; exact htext
    · next hl => exact htexts hl hold

theorem Folder.Holds.erase_index (h : f.Holds m) (hm : m.Filed) (label : String) :
    (f.put indexName (Index.draft (m.index.erase label)).pretty.bytes).Holds (m.erase label) := by
  constructor
  · rw [← Memory.index_erase]
    refine f.gives_put_index fun label' r hr => ?_
    rw [Table.get?_erase] at hr
    split at hr
    · cases hr
    · rw [Memory.get?_index, Option.map_eq_some_iff] at hr
      obtain ⟨old, hold, rfl⟩ := hr
      exact (hm.kept hold).asWritten
  · intro label' old hold
    rw [f.put_of_ne (textName_ne_indexName _)]
    rw [Memory.fetch?_erase] at hold
    split at hold
    · cases hold
    · exact h.texts hold

/-- A text that no document has is dropped. -/
theorem Folder.Holds.drop_text (h : f.Holds m)
    (hid : ∀ label doc, m.fetch? label = some doc → doc.record.id ≠ id) :
    (f.drop (textName id)).Holds m := by
  refine h.congr (f.drop_of_ne (textName_ne_indexName id).symm) fun hdoc => ?_
  exact f.drop_of_ne fun hname => hid _ _ hdoc (textName_injective hname)

/-! ## Saving -/

/-- The directory of a store made if it is not there. -/
def makeRoot (root : String) : Act Unit := do
  unless ← Act.send (.isThere root) do
    Act.file (Script.send (.makeDirectories root))

/-- Whether it can be made or not, nothing else changes. -/
theorem perform_makeRoot (root : String) (w : World) :
    ((makeRoot root).perform w).2 =
      { w with files := (w.files.makeDirectories w.cwd root).2 } := by
  have hlook : (Act.send (.isThere root)).perform w = (.ok (w.files.isThere w.cwd root), w) := rfl
  unfold makeRoot
  rw [Act.perform_bind_ok hlook]
  cases hthere : w.files.isThere w.cwd root with
  | true => rw [FileTree.makeDirectories_of_isThere hthere]; rfl
  | false =>
    show ((Act.file (Script.send (.makeDirectories root))).perform w).2 = _
    rw [Act.perform_file]
    rfl

/-- An act that makes directories fails where one of them cannot be made. -/
theorem makeDirectories_of_perform_error {path : String} {w w' : World} {e : Failure}
    (h : (Act.file (Script.send (.makeDirectories path))).perform w = (.error e, w')) :
    ∃ e', w.files.makeDirectories w.cwd path = (.error e', w'.files) := by
  rw [Act.perform_file] at h
  cases hmade : w.files.makeDirectories w.cwd path with
  | mk r files =>
    have hrun : (Script.send (.makeDirectories path)).run w = (r, { w with files }) := by
      show w.answer (.makeDirectories path) = _
      rw [World.answer, hmade]
    rw [hrun] at h
    cases r with
    | error e' =>
      cases h
      exact ⟨e', rfl⟩
    | ok x => cases h

/-- The directory of a store is not made only where it cannot be made. -/
theorem makeDirectories_of_makeRoot_error {root : String} {w w' : World} {e : Failure}
    (h : (makeRoot root).perform w = (.error e, w')) :
    ∃ e', w.files.makeDirectories w.cwd root = (.error e', w'.files) := by
  have hlook : (Act.send (.isThere root)).perform w = (.ok (w.files.isThere w.cwd root), w) := rfl
  unfold makeRoot at h
  rw [Act.perform_bind_ok hlook] at h
  cases hthere : w.files.isThere w.cwd root with
  | true =>
    rw [hthere] at h
    cases h
  | false =>
    rw [hthere] at h
    exact makeDirectories_of_perform_error h

/-- It can be made where no change of files is refused. -/
theorem exists_perform_makeRoot {root : String} {w : World} (h : (makeRoot root).Unrefused w) :
    ∃ w', (makeRoot root).perform w = (.ok (), w') := by
  have hlook : (Act.send (.isThere root)).perform w = (.ok (w.files.isThere w.cwd root), w) := rfl
  unfold makeRoot at h ⊢
  rw [Act.unrefused_bind_ok hlook] at h
  rw [Act.perform_bind_ok hlook]
  replace h := h.2
  cases hthere : w.files.isThere w.cwd root with
  | true => exact ⟨w, rfl⟩
  | false =>
    rw [hthere] at h
    exact ⟨_, h.makeDirectories⟩

/-- The text discarded that a label had under another identifier. -/
def discardStale (root : String) (old : Option Record) (id : Ident) : Act Unit :=
  match old with
  | some old => if old.id ≠ id then discard (textPath root old.id) else pure ()
  | none => pure ()

/-- A document put into the directory of a store, which is there. -/
def store (root : String) (doc : Stored) : Act Unit := do
  replaceFile root (textName doc.record.id) doc.raw
  let index ← loadIndex root
  saveIndex root (index.put doc.record.label doc.record)
  discardStale root (index.get? doc.record.label) doc.record.id
  Act.send (.note (.saved doc.raw.byteCount doc.record.label (textName doc.record.id)))

theorem discardStale_bind (root : String) (old : Option Record) (id : Ident) (next : Act Unit) :
    (discardStale root old id >>= fun _ => next) =
      old.elim next fun old =>
        if old.id ≠ id then discard (textPath root old.id) >>= fun _ => next else next := by
  cases old with
  | none => rfl
  | some old =>
    unfold discardStale
    by_cases hid : old.id ≠ id
    · simp only [if_pos hid, Option.elim_some]
    · simp only [if_neg hid, Option.elim_some]
      rfl

theorem save_eq (root : String) (doc : Stored) :
    save root doc = makeRoot root >>= fun _ => store root doc := by
  unfold save makeRoot store
  simp only [discardStale_bind, bind_assoc]
  refine bind_congr fun there => ?_
  cases there with
  | true =>
    refine bind_congr fun _ => bind_congr fun index => bind_congr fun _ => ?_
    cases index.get? doc.record.label <;> rfl
  | false =>
    refine bind_congr fun _ => bind_congr fun _ => bind_congr fun index => bind_congr fun _ => ?_
    cases index.get? doc.record.label <;> rfl

/-- A change of a store. -/
inductive Change where
  | save (doc : Stored)
  | delete (label : String)

namespace Change

/-- The label that a change is about. -/
def label : Change → String
  | .save doc => doc.record.label
  | .delete label => label

/-- The catalog after a change. -/
def after (c : Change) (m : Memory) : Memory :=
  match c with
  | .save doc => m.save doc
  | .delete label => m.erase label

/-- A catalog that a store may show while a change is under way: that before it,
that after it, or that with the new text of a document and its old record. -/
def Passes (c : Change) (m m' : Memory) : Prop :=
  match c with
  | .save doc => m' = m ∨ m' = m.save doc ∨
      ∃ old, m.fetch? doc.record.label = some old ∧ m' = m.save ⟨old.record, doc.raw⟩
  | .delete label => m' = m ∨ m' = Table.erase m label

end Change

/-- The folders that hold what a store may show while a change is under way. -/
def Way (c : Change) (m : Memory) (f : Folder) : Prop := ∃ m', c.Passes m m' ∧ f.Holds m'

theorem moves_loadIndex (hf : f.Gives index) : s.Moves (loadIndex s.root) f index f (· = f) :=
  Site.moves_of_quiet (quiet_loadIndex s.root) fun _ hcwd hw => perform_loadIndex hcwd hw.finds hf

theorem moves_saveIndex (f : Folder) (index : Index) :
    s.Moves (saveIndex s.root index) f () (f.put indexName index.draft.pretty.bytes) fun f' =>
      f' = f ∨ f' = f.put indexName index.draft.pretty.bytes :=
  Site.moves_replaceFile storeName_indexName f _

/-- The new text of a document makes no difference yet, or it is that of the old
record already. -/
theorem way_put_text (hf : f.Holds m) (hm : m.Filed) (hfree : m.Free doc) :
    Way (.save doc) m (f.put (textName doc.record.id) doc.raw.bytes) := by
  have hfresh : (∀ old, m.fetch? doc.record.label = some old → old.record.id ≠ doc.record.id) →
      (f.put (textName doc.record.id) doc.raw.bytes).Holds m := by
    intro hnew
    refine hf.put_text _ fun label old hold hid => ?_
    have hlabel := hfree hold hid
    exact hnew old (hlabel ▸ hold) hid
  by_cases hsame : ∃ old, m.fetch? doc.record.label = some old ∧ old.record.id = doc.record.id
  · obtain ⟨old, hold, hid⟩ := hsame
    exact ⟨_, .inr (.inr ⟨old, hold, rfl⟩), hid ▸ hf.put_own_text hm hold doc.raw⟩
  · exact ⟨m, .inl rfl, hfresh fun old hold hid => hsame ⟨old, hold, hid⟩⟩

/-- The folder without the text that a label had under another identifier. -/
def Folder.dropStale (f : Folder) (old : Option Stored) (id : Ident) : Folder :=
  match old with
  | some old => if old.record.id ≠ id then f.drop (textName old.record.id) else f
  | none => f

theorem moves_discardStale (f : Folder) (old : Option Stored) (id : Ident) :
    s.Moves (discardStale s.root (old.map fun old => old.record.asWritten) id) f ()
      (f.dropStale old id) fun f' => f' = f ∨ f' = f.dropStale old id := by
  cases old with
  | none => exact Site.moves_pure () f _
  | some old =>
    rw [Option.map_some, discardStale, Folder.dropStale, Record.id_asWritten]
    by_cases hid : old.record.id ≠ id
    · rw [if_pos hid, if_pos hid]
      exact Site.moves_discard (storeName_textName _) f
    · rw [if_neg hid, if_neg hid]
      exact Site.moves_pure () f _

/-- The text of a document that another one takes the place of is no longer
needed. -/
theorem Folder.Holds.dropStale (h : f.Holds (m.save doc)) (hm : m.Filed) :
    (f.dropStale (m.fetch? doc.record.label) doc.record.id).Holds (m.save doc) := by
  cases hold : m.fetch? doc.record.label with
  | none => exact h
  | some stale =>
    rw [Folder.dropStale]
    split
    next hid =>
      refine h.drop_text fun label old hsaved hsame => ?_
      rw [Memory.fetch?_save] at hsaved
      split at hsaved
      · cases hsaved
        exact hid hsame.symm
      · next hl => exact hl (hm.apart hsaved hold hsame)
    next => exact h

/-- What is left is not the text that went. -/
theorem Folder.isSome_dropStale {old : Option Stored} {id' : Ident}
    (h : (f.dropStale old id (textName id')).isSome) :
    (f (textName id')).isSome ∧ ∀ stale, old = some stale → stale.record.id = id' → id = id' := by
  cases old with
  | none => exact ⟨h, nofun⟩
  | some stale =>
    rw [Folder.dropStale] at h
    split at h
    next hid =>
      have hne : id' ≠ stale.record.id := by
        rintro rfl
        rw [Folder.drop, if_pos rfl] at h
        cases h
      rw [f.drop_of_ne fun hname => hne (textName_injective hname)] at h
      refine ⟨h, fun old hold hsame => ?_⟩
      cases hold
      exact absurd hsame.symm hne
    next hid =>
      refine ⟨h, fun old hold hsame => ?_⟩
      cases hold
      exact (not_not.mp hid).symm.trans hsame

/-- With the text of its former identifier gone, a document that is saved leaves
nothing over. -/
theorem Folder.tidy_dropStale (hall : ∀ id, (f (textName id)).isSome → id = doc.record.id ∨
      ∃ label old, m.fetch? label = some old ∧ old.record.id = id) :
    (f.dropStale (m.fetch? doc.record.label) doc.record.id).Tidy (m.save doc) := by
  have hown : (m.save doc).fetch? doc.record.label = some doc := by
    rw [Memory.fetch?_save, if_pos rfl]
  intro id hid
  obtain ⟨hbefore, hstale⟩ := Folder.isSome_dropStale hid
  rcases hall id hbefore with rfl | ⟨label, old, hold, hsame⟩
  · exact ⟨_, doc, hown, rfl⟩
  · by_cases hl : label = doc.record.label
    · exact ⟨_, doc, hown, hstale old (hl ▸ hold) hsame⟩
    · refine ⟨label, old, ?_, hsame⟩
      rw [Memory.fetch?_save, if_neg hl, hold]

/-- The folder with the text of a document and the index that names it. -/
def Folder.written (f : Folder) (m : Memory) (doc : Stored) : Folder :=
  (f.put (textName doc.record.id) doc.raw.bytes).put indexName
    (Index.draft (m.index.put doc.record.label doc.record)).pretty.bytes

theorem Folder.Holds.written (h : f.Holds m) (hm : m.Filed) (hkept : doc.record.Kept)
    (hfree : m.Free doc) : (f.written m doc).Holds (m.save doc) := by
  refine Folder.holds_put_index hm hkept (f.put_self _ _) fun hl hold => ?_
  have hne : _ ≠ doc.record.id := fun hid => hl (hfree hold hid)
  rw [f.put_of_ne fun hname => hne (textName_injective hname)]
  exact h.texts hold

/-- The texts of a folder are then those that it had, and the new one. -/
theorem Folder.isSome_written (h : (f.written m doc (textName id)).isSome) :
    id = doc.record.id ∨ (f (textName id)).isSome := by
  by_cases hid : id = doc.record.id
  · exact .inl hid
  · rw [Folder.written, Folder.put_of_ne (textName_ne_indexName id),
      f.put_of_ne fun hname => hid (textName_injective hname)] at h
    exact .inr h

/-- **A document is saved text first and index second.** -/
theorem moves_store (hf : f.Holds m) (hm : m.Filed) (hkept : doc.record.Kept)
    (hfree : m.Free doc) :
    ∃ g, s.Moves (store s.root doc) f () g (Way (.save doc) m) ∧ g.Holds (m.save doc) ∧
      (f.Tidy m → g.Tidy (m.save doc)) := by
  have hafter := hf.written hm hkept hfree
  have hlast := hafter.dropStale hm
  refine ⟨(f.written m doc).dropStale (m.fetch? doc.record.label) doc.record.id, ?_, hlast, ?_⟩
  · obtain ⟨g, hg⟩ :
      ∃ g, (f.written m doc).dropStale (m.fetch? doc.record.label) doc.record.id = g := ⟨_, rfl⟩
    rw [hg] at hlast ⊢
    -- what a store may show with each of the four folders
    have hbefore : Way (.save doc) m f := ⟨m, .inl rfl, hf⟩
    have htext := way_put_text hf hm hfree
    have hindex : Way (.save doc) m (f.written m doc) := ⟨_, .inr (.inl rfl), hafter⟩
    have hdone : Way (.save doc) m g := ⟨_, .inr (.inl rfl), hlast⟩
    have hwritten : s.Moves (replaceFile s.root (textName doc.record.id) doc.raw) f ()
        (f.put (textName doc.record.id) doc.raw.bytes) (Way (.save doc) m) := by
      refine (Site.moves_replaceFile (storeName_textName _) f doc.raw).mono ?_
      rintro f' (rfl | rfl)
      · exact hbefore
      · exact htext
    have hloaded : s.Moves (loadIndex s.root) (f.put (textName doc.record.id) doc.raw.bytes) m.index
        (f.put (textName doc.record.id) doc.raw.bytes) (Way (.save doc) m) := by
      refine (moves_loadIndex (hf.index.congr ?_)).mono fun f' hf' => hf' ▸ htext
      exact f.put_of_ne (textName_ne_indexName _).symm _
    have hindexed : s.Moves (saveIndex s.root (m.index.put doc.record.label doc.record))
        (f.put (textName doc.record.id) doc.raw.bytes) () (f.written m doc)
        (Way (.save doc) m) := by
      refine (moves_saveIndex _ _).mono ?_
      rintro f' (rfl | rfl)
      · exact htext
      · exact hindex
    have hdiscarded : s.Moves (discardStale s.root (m.index.get? doc.record.label) doc.record.id)
        (f.written m doc) () g (Way (.save doc) m) := by
      rw [Memory.get?_index, ← hg]
      refine (moves_discardStale _ _ _).mono ?_
      rintro f' (rfl | rfl)
      · exact hindex
      · exact hg ▸ hdone
    have hnoted : ∀ n, s.Moves (Act.send (.note n)) g () g (Way (.save doc) m) := fun n =>
      (Site.moves_of_quiet (Act.asksOnly_send (r := .note n) trivial) fun _ _ _ => rfl).mono
        fun f' hf' => hf' ▸ hdone
    exact hwritten.bind (hloaded.bind (hindexed.bind (hdiscarded.bind (hnoted _))))
  · intro htidy
    refine Folder.tidy_dropStale fun id hid => ?_
    exact (Folder.isSome_written hid).imp_right (htidy id)

/-! ## Deleting -/

/-- The folder with an index that names a document no more, and without its
text. -/
def Folder.deleted (f : Folder) (m : Memory) (label : String) (id : Ident) : Folder :=
  (f.put indexName (Index.draft (m.index.erase label)).pretty.bytes).drop (textName id)

theorem Folder.tidy_deleted {label : String} (h : f.Tidy m) (hdoc : m.fetch? label = some doc) :
    (f.deleted m label doc.record.id).Tidy (Table.erase m label) := by
  intro id hid
  have hne : id ≠ doc.record.id := by
    rintro rfl
    rw [Folder.deleted, Folder.drop, if_pos rfl] at hid
    cases hid
  rw [Folder.deleted, Folder.drop_of_ne fun hname => hne (textName_injective hname),
    f.put_of_ne (textName_ne_indexName id)] at hid
  obtain ⟨label', old, hold, rfl⟩ := h id hid
  refine ⟨label', old, ?_, rfl⟩
  rw [Memory.fetch?_erase, if_neg, hold]
  rintro rfl
  rw [hdoc] at hold
  cases hold
  exact hne rfl

/-- **A document is deleted index first and text second.** -/
theorem moves_delete (hf : f.Holds m) (hm : m.Filed) {label : String}
    (hdoc : m.fetch? label = some doc) :
    ∃ g, s.Moves (delete s.root label) f () g (Way (.delete label) m) ∧
      g.Holds (Table.erase m label) ∧ (f.Tidy m → g.Tidy (Table.erase m label)) := by
  have hbefore : Way (.delete label) m f := ⟨m, .inl rfl, hf⟩
  have hafter := hf.erase_index hm label
  have hindex : Way (.delete label) m
      (f.put indexName (Index.draft (m.index.erase label)).pretty.bytes) := ⟨_, .inr rfl, hafter⟩
  have hlast : (f.deleted m label doc.record.id).Holds (Table.erase m label) :=
    hafter.drop_text fun _ _ hold => hm.ne_of_erase hdoc hold
  refine ⟨f.deleted m label doc.record.id, ?_, hlast, fun htidy => Folder.tidy_deleted htidy hdoc⟩
  have hloaded : s.Moves (loadIndex s.root) f m.index f (Way (.delete label) m) :=
    (moves_loadIndex hf.index).mono fun f' hf' => hf' ▸ hbefore
  have hindexed : s.Moves (saveIndex s.root (m.index.erase label)) f ()
      (f.put indexName (Index.draft (m.index.erase label)).pretty.bytes)
      (Way (.delete label) m) := by
    refine (moves_saveIndex f _).mono ?_
    rintro f' (rfl | rfl)
    · exact hbefore
    · exact hindex
  have hdiscarded : s.Moves (discard (textPath s.root doc.record.id))
      (f.put indexName (Index.draft (m.index.erase label)).pretty.bytes) ()
      (f.deleted m label doc.record.id) (Way (.delete label) m) := by
    refine (Site.moves_discard (storeName_textName _) _).mono ?_
    rintro f' (rfl | rfl)
    · exact hindex
    · exact ⟨_, .inr rfl, hlast⟩
  have hget : m.index.get? label = some doc.record.asWritten := by
    rw [Memory.get?_index, hdoc]
    rfl
  refine hloaded.bind ?_
  simp only [hget, Record.id_asWritten]
  exact hindexed.bind hdiscarded

end Disk

end Ninefold
