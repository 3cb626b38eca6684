import Mathlib
import Ninefold.Proofs.Disk.Service

/-!
# A store whose changes are cut short

Wherever a change of a store is cut short, the index that is left names only
texts that are there, every other label reads what was saved under it last, and
the label that the change is about reads what it read before, or what it reads
afterwards, or its new text with its old record. After a change that came to
its end the texts are just those of the documents in the index.
-/

namespace Ninefold

namespace Disk

/-- What is read of a document that was saved: the text and the record as they
were, but that the coordinate has a one where it had a number that no address
can name. -/
structure ReadsAs (saved read : Stored) : Prop where
  raw : read.raw = saved.raw
  record : read.record = { saved.record with coordinate := read.record.coordinate }
  numbers : ∀ a, read.record.coordinate.get a =
    if saved.record.coordinate.get a ≤ 999 then saved.record.coordinate.get a else 1

/-- What is read under a label for which a document was saved, or none. -/
def ReadsBack (saved read : Option Stored) : Prop := Option.Rel ReadsAs saved read

theorem readsAs_asWritten (doc : Stored) : ReadsAs doc doc.asWritten where
  raw := by rw [Stored.asWritten]
  record := by rw [Stored.asWritten, Record.asWritten]
  numbers a := by
    rw [Stored.asWritten, Record.asWritten]
    exact doc.record.coordinate.get_asWritten a

theorem readsBack_asWritten (saved : Option Stored) :
    ReadsBack saved (saved.map Stored.asWritten) := by
  cases saved with
  | none => exact .none
  | some doc => exact .some (readsAs_asWritten doc)

theorem readsAs_iff {saved read : Stored} : ReadsAs saved read ↔ read = saved.asWritten := by
  constructor
  · rintro ⟨hraw, hrecord, hnumbers⟩
    have hcoordinate : read.record.coordinate = saved.record.coordinate.asWritten :=
      Coordinate.ext_get fun a => (hnumbers a).trans (saved.record.coordinate.get_asWritten a).symm
    obtain ⟨record, raw⟩ := read
    rw [Stored.asWritten, Record.asWritten, ← hcoordinate, ← hrecord, ← hraw]
  · rintro rfl
    exact readsAs_asWritten saved

theorem readsBack_iff {saved read : Option Stored} :
    ReadsBack saved read ↔ read = saved.map Stored.asWritten := by
  constructor
  · rintro (hread | _)
    · rw [Option.map_some, readsAs_iff.mp hread]
    · rfl
  · rintro rfl
    exact readsBack_asWritten saved

/-- A document that stands at a coordinate that an address can name is read just
as it was saved. -/
theorem readsBack_iff_eq {saved read : Option Stored}
    (h : ∀ doc, saved = some doc → doc.record.coordinate.Addressable) :
    ReadsBack saved read ↔ read = saved := by
  rw [readsBack_iff]
  cases saved with
  | none => rfl
  | some doc => rw [Option.map_some, Stored.asWritten_of_addressable (h doc rfl)]

/-! ## Courses of changes -/

namespace Change

/-- The act of a change. -/
def act (root : String) : Change → Act Unit
  | .save doc => Disk.save root doc
  | .delete label => Disk.delete root label

/-- A change that a catalog can take: what is saved was changed at times that
clocks show, and has an identifier that no other label holds. -/
def Sound (m : Memory) : Change → Prop
  | .save doc => doc.record.Kept ∧ m.Free doc
  | .delete _ => True

/-- What the label of a change may read when the change is cut short. -/
def MayRead (m : Memory) : Change → Option Stored → Prop
  | .save doc, read =>
    ReadsBack (m.fetch? doc.record.label) read ∨ ReadsBack (some doc) read ∨
      ∃ old, m.fetch? doc.record.label = some old ∧ ReadsBack (some ⟨old.record, doc.raw⟩) read
  | .delete label, read => ReadsBack (m.fetch? label) read ∨ read = none

end Change

/-- The world after one change after another, whatever each of them comes to. -/
def afterChanges (root : String) : List Change → World → World
  | [], w => w
  | c :: rest, w => afterChanges root rest ((c.act root).perform w).2

/-- The catalog after one change after another. -/
def changed : List Change → Memory → Memory
  | [], m => m
  | c :: rest, m => changed rest (c.after m)

/-- Changes that a catalog can take one after another. -/
def SoundChanges : List Change → Memory → Prop
  | [], _ => True
  | c :: rest, m => c.Sound m ∧ SoundChanges rest (c.after m)

/-! ## What a store shows -/

/-- A store that a change of a catalog has left somewhere on its way. -/
structure Intact (root : String) (m : Memory) (c : Change) (w : World) : Prop where
  /-- Every text that the index names is there. -/
  texts : ∃ index, ((loadIndex root).perform w).1 = .ok index ∧
    ∀ label r, index.get? label = some r → w.files.isFile w.cwd (textPath root r.id) = true
  /-- Every other label reads what was saved under it. -/
  others : ∀ label, label ≠ c.label →
    ∃ read, ((fetch? root label).perform w).1 = .ok read ∧ ReadsBack (m.fetch? label) read
  /-- The label of the change reads what it may. -/
  own : ∃ read, ((fetch? root c.label).perform w).1 = .ok read ∧ c.MayRead m read

/-- A store that a change has left at its end: every label reads what was saved
under it, and the texts are those of the documents in the index. -/
structure Settled (root : String) (m : Memory) (w : World) : Prop where
  reads : ∀ label,
    ∃ read, ((fetch? root label).perform w).1 = .ok read ∧ ReadsBack (m.fetch? label) read
  texts : ∃ index, ((loadIndex root).perform w).1 = .ok index ∧
    ∀ id, w.files.isThere w.cwd (textPath root id) = true ↔
      ∃ label r, index.get? label = some r ∧ r.id = id

variable {s : Site} {t : FileTree} {m : Memory} {c : Change} {w : World} {root : String}

/-- A change touches no other label. -/
theorem Change.Passes.other {m' : Memory} (h : c.Passes m m') (hm : m.Filed) {label : String}
    (hl : label ≠ c.label) : m'.fetch? label = m.fetch? label := by
  cases c with
  | save doc =>
    have hne : label ≠ doc.record.label := hl
    rcases h with rfl | rfl | ⟨old, hold, rfl⟩
    · rfl
    · rw [Memory.fetch?_save, if_neg hne]
    · have hlabel : old.record.label = doc.record.label := hm.label hold
      rw [Memory.fetch?_save, if_neg (hlabel ▸ hne)]
  | delete gone =>
    have hne : label ≠ gone := hl
    rcases h with rfl | rfl
    · rfl
    · rw [Memory.fetch?_erase, if_neg hne]

/-- The label of a change reads what it may. -/
theorem Change.Passes.own {m' : Memory} (h : c.Passes m m') (hm : m.Filed) :
    c.MayRead m ((m'.fetch? c.label).map Stored.asWritten) := by
  cases c with
  | save doc =>
    show Change.MayRead m (.save doc) ((m'.fetch? doc.record.label).map Stored.asWritten)
    rcases h with rfl | rfl | ⟨old, hold, rfl⟩
    · exact .inl (readsBack_asWritten _)
    · rw [Memory.fetch?_save, if_pos rfl]
      exact .inr (.inl (readsBack_asWritten _))
    · have hlabel : old.record.label = doc.record.label := hm.label hold
      rw [Memory.fetch?_save, if_pos hlabel.symm]
      exact .inr (.inr ⟨old, hold, readsBack_asWritten _⟩)
  | delete label =>
    show Change.MayRead m (.delete label) ((m'.fetch? label).map Stored.asWritten)
    rcases h with rfl | rfl
    · exact .inl (readsBack_asWritten _)
    · rw [Memory.fetch?_erase, if_pos rfl]
      exact .inr rfl

/-- What a tree on the way finds is intact. -/
theorem Passing.intact (h : Passing s c m t) (hm : m.Filed) (hcwd : w.cwd = s.cwd)
    (hfiles : w.files = t) : Intact s.root m c w := by
  subst hfiles
  obtain ⟨f, ⟨m', hpasses, hf⟩, hfinds⟩ := h
  have hfetch := perform_fetch? hcwd hfinds hf
  refine ⟨⟨m'.index, perform_loadIndex hcwd hfinds hf.index, fun label r hr => ?_⟩,
    fun label hl => ?_, ⟨_, hfetch c.label, hpasses.own hm⟩⟩
  · rw [Memory.get?_index, Option.map_eq_some_iff] at hr
    obtain ⟨doc, hdoc, rfl⟩ := hr
    rw [Record.id_asWritten, hcwd]
    exact hfinds.isFile (storeName_textName _) (hf.texts hdoc)
  · exact ⟨_, hfetch label, hpasses.other hm hl ▸ readsBack_asWritten _⟩

/-- A store that stands for a catalog, with nothing over, is settled. -/
theorem Stands.settled (h : Stands s w m) (hover : s.NothingOver w.files m) :
    Settled s.root m w := by
  obtain ⟨f, hserves, hf⟩ := h.folder
  have htidy := hserves.finds.nothingOver_iff.mp hover
  refine ⟨fun label => ⟨_, h.fetch? label, readsBack_asWritten _⟩, m.index,
    perform_loadIndex h.cwd hserves.finds hf.index, fun id => ?_⟩
  rw [h.cwd, textPath, hserves.finds.isThere (storeName_textName _)]
  constructor
  · intro hid
    obtain ⟨label, doc, hdoc, rfl⟩ := htidy id hid
    refine ⟨label, doc.record.asWritten, ?_, Record.id_asWritten _⟩
    rw [Memory.get?_index, hdoc]
    rfl
  · rintro ⟨label, r, hr, rfl⟩
    rw [Memory.get?_index, Option.map_eq_some_iff] at hr
    obtain ⟨doc, hdoc, rfl⟩ := hr
    rw [Record.id_asWritten, hf.texts hdoc]
    rfl

/-! ## Change after change -/

/-- One change: what it leaves on its way, and what the store stands for at its
end. -/
theorem Stands.change (h : Stands s w m) (hc : c.Sound m) :
    (Stands s ((c.act s.root).perform w).2 (c.after m) ∧
      (s.NothingOver w.files m →
        s.NothingOver ((c.act s.root).perform w).2.files (c.after m))) ∧
      ∀ t ∈ (c.act s.root).leaves w, Passing s c m t := by
  cases c with
  | save doc =>
    obtain ⟨⟨w', hrun, hafter⟩, hleaves⟩ := h.save hc.1 hc.2
    refine ⟨?_, hleaves⟩
    rw [Change.act, hrun]
    exact hafter
  | delete label =>
    cases hdoc : m.fetch? label with
    | some doc =>
      obtain ⟨⟨w', hrun, hafter⟩, hleaves⟩ := h.delete hdoc
      refine ⟨?_, hleaves⟩
      rw [Change.act, hrun]
      exact hafter
    | none =>
      obtain ⟨⟨w', hrun, hfiles, hafter⟩, hleaves⟩ := h.delete_unknown hdoc
      refine ⟨?_, hleaves⟩
      rw [Change.act, hrun, Change.after, Memory.erase_of_fetch?_none hdoc]
      exact ⟨hafter, fun hover => hfiles.symm ▸ hover⟩

/-- Change after change, the store stands for the catalog after them. -/
theorem Stands.afterChanges {cs : List Change} (h : Stands s w m) (hover : s.NothingOver w.files m)
    (hcs : SoundChanges cs m) :
    Stands s (afterChanges s.root cs w) (changed cs m) ∧
      s.NothingOver (afterChanges s.root cs w).files (changed cs m) := by
  induction cs generalizing w m with
  | nil => exact ⟨h, hover⟩
  | cons c rest ih =>
    obtain ⟨⟨hafter, hleft⟩, -⟩ := h.change hcs.1
    exact ih hafter (hleft hover) hcs.2

/-- **A store stays intact wherever a change of it is cut short.** Starting where
the directory of the store is vacant, let changes come to their ends one after
another, and one more be cut short after any of its steps, or within one: in
every world with the files that are then left, the store is intact. When that
change too comes to its end, the store is settled. -/
theorem intact_of_mem_leaves (hv : Vacant root w.files w.cwd) {before : List Change}
    (hbefore : SoundChanges before .empty) (hc : c.Sound (changed before .empty)) :
    (∀ t ∈ (c.act root).leaves (afterChanges root before w), ∀ v : World, v.files = t →
        v.cwd = w.cwd → Intact root (changed before .empty) c v) ∧
      Settled root (c.after (changed before .empty))
        ((c.act root).perform (afterChanges root before w)).2 := by
  obtain ⟨p, hstart, hvacant⟩ := hv.stands
  obtain ⟨hstands, hover⟩ := hstart.afterChanges hvacant hbefore
  obtain ⟨⟨hafter, hleft⟩, hleaves⟩ := hstands.change hc
  exact ⟨fun t ht v hfiles hcwd => (hleaves t ht).intact hstands.filed hcwd hfiles,
    hafter.settled (hleft hover)⟩

/-- A document of one text saved. -/
def savedText (t : Text) : Change :=
  .save ((Stored.fresh "a" default (.ofNat 1)).withText t default)

/-- A document saved a second time with another text, in a directory that was
not there at first. -/
theorem intact_saving_twice :
    Vacant "home" World.bare.files World.bare.cwd ∧ SoundChanges [savedText ['x']] .empty ∧
      (savedText ['y']).Sound (changed [savedText ['x']] .empty) ∧
      (∀ t ∈ ((savedText ['y']).act "home").leaves
          (afterChanges "home" [savedText ['x']] .bare),
        ∀ v : World, v.files = t → v.cwd = World.bare.cwd →
          Intact "home" (changed [savedText ['x']] .empty) (savedText ['y']) v) ∧
      Settled "home" ((savedText ['y']).after (changed [savedText ['x']] .empty))
        (((savedText ['y']).act "home").perform
          (afterChanges "home" [savedText ['x']] .bare)).2 := by
  have hvacant : Vacant "home" World.bare.files World.bare.cwd := ⟨rfl, rfl, by decide⟩
  have hkept : (default : Instant).Kept := ⟨by decide, by decide, by decide⟩
  have hfirst : SoundChanges [savedText ['x']] .empty :=
    ⟨⟨⟨hkept, hkept⟩, fun h => by cases h⟩, trivial⟩
  have hagain : (savedText ['y']).Sound (changed [savedText ['x']] .empty) := by
    refine ⟨⟨hkept, hkept⟩, fun {label old} hold _ => ?_⟩
    have hfetch := Memory.fetch?_save .empty
      ((Stored.fresh "a" default (.ofNat 1)).withText ['x'] default) label
    replace hold := hfetch.symm.trans hold
    split at hold
    · next hl => exact hl
    · cases hold
  exact ⟨hvacant, hfirst, hagain, intact_of_mem_leaves hvacant hfirst hagain⟩

/-- A document that stands one step behind the last scroll that an address can
name. -/
def farOut : Stored :=
  (Stored.fresh "a" default (.ofNat 1)).moveTo ((Coordinate.origin.set .scroll 999).advance .scroll)

/-- A document under another label. -/
def beside : Stored := .fresh "b" default (.ofNat 2)

/-- Such a document is not what its label reads once another label has been
saved too. -/
theorem fetch_farOut_ne :
    Vacant "home" World.bare.files World.bare.cwd ∧
      SoundChanges [.save farOut, .save beside] .empty ∧
      farOut.record.coordinate.get .scroll = 1000 ∧
      ∃ read, ((fetch? "home" "a").perform
          (afterChanges "home" [.save farOut, .save beside] .bare)).1 = .ok (some read) ∧
        read.record.coordinate.get .scroll = 1 ∧ read ≠ farOut := by
  have hvacant : Vacant "home" World.bare.files World.bare.cwd := ⟨rfl, rfl, by decide⟩
  have hkept : (default : Instant).Kept := ⟨by decide, by decide, by decide⟩
  have hsaved : Memory.fetch? (.save .empty farOut) "a" = some farOut := by
    have hlabel : "a" = farOut.record.label := rfl
    rw [Memory.fetch?_save, if_pos hlabel]
  have hsound : SoundChanges [.save farOut, .save beside] .empty := by
    refine ⟨⟨⟨hkept, hkept⟩, fun h => by cases h⟩,
      ⟨⟨hkept, hkept⟩, fun {label old} hold hid => ?_⟩, trivial⟩
    replace hold : Memory.fetch? (.save .empty farOut) label = some old := hold
    rw [Memory.fetch?_save] at hold
    split at hold
    · obtain rfl := Option.some.inj hold
      exact absurd hid (by decide)
    · cases hold
  have hnumber : farOut.record.coordinate.get .scroll = 1000 := by decide
  obtain ⟨p, hstart, hvacant'⟩ := hvacant.stands
  obtain ⟨hstands, -⟩ := hstart.afterChanges hvacant' hsound
  have hother : "a" ≠ beside.record.label := by decide
  have hread := hstands.fetch? "a"
  rw [changed, changed, changed, Change.after, Change.after, Memory.fetch?_save, if_neg hother,
    hsaved, Option.map_some] at hread
  have hfirst : farOut.asWritten.record.coordinate.get .scroll = 1 := by
    rw [(readsAs_asWritten farOut).numbers, hnumber, if_neg (by decide)]
  refine ⟨hvacant, hsound, hnumber, _, hread, hfirst, fun hsame => ?_⟩
  rw [hsame, hnumber] at hfirst
  cases hfirst

end Disk

end Ninefold
