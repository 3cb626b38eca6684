import Ninefold.Record
import Ninefold.Proofs.Address
import Ninefold.Proofs.Ident
import Ninefold.Proofs.Instant
import Ninefold.Proofs.Json
import Ninefold.Proofs.Table

/-!
# Records read back

An index that was written is read back record by record. What a record cannot
keep is a coordinate that no address can name: it is read as the coordinate
its address means.
-/

namespace Ninefold

/-! ## Readings that come to something -/

namespace Reading

variable {α β : Type}

/-- A reading comes to a value, whatever it notes. -/
def Gives (r : Reading α) (a : α) : Prop :=
  ∀ ns, ∃ ns', StateT.run (OptionT.run r) ns = (some a, ns')

theorem gives_pure (a : α) : Gives (pure a) a := fun ns => ⟨ns, rfl⟩

theorem gives_note (ns : List Note) : Gives (note ns) () := fun before => ⟨before ++ ns, rfl⟩

theorem Gives.bind {r : Reading α} {f : α → Reading β} {a : α} {b : β} (h : r.Gives a)
    (h' : (f a).Gives b) : (r >>= f).Gives b := by
  intro ns
  obtain ⟨ns₁, hr⟩ := h ns
  obtain ⟨ns₂, hf⟩ := h' ns₁
  refine ⟨ns₂, ?_⟩
  rw [OptionT.run_bind, Option.elimM, StateT.run_bind, hr]
  exact hf

theorem Gives.map {r : Reading α} {a : α} (h : r.Gives a) (f : α → β) : (f <$> r).Gives (f a) := by
  intro ns
  obtain ⟨ns', hr⟩ := h ns
  refine ⟨ns', ?_⟩
  simp only [OptionT.run_map, StateT.run_map, hr]
  rfl

theorem gives_text (t : Text) : Gives (text (.string (some t))) t := gives_pure t

theorem gives_string (s : String) : Gives (string (.string (some (Text.ofString s)))) s := by
  have h := (gives_text (Text.ofString s)).map Text.asString
  rwa [Text.asString_ofString] at h

/-- A text that was written whole is read as what its value gives. -/
theorem gives_whole {read : Json → Reading α} {d : Json.Draft} {a : α} (h : (read d.tree).Gives a) :
    Gives (whole read d.pretty) a := by
  have hparse := d.parse_pretty
  rw [whole, hparse]
  exact h.bind (gives_pure a)

end Reading

open Reading

/-! ## Records -/

/-- A coordinate as its address gives it. -/
def Coordinate.asWritten (c : Coordinate) : Coordinate := .ofAddress c.address

theorem Coordinate.asWritten_of_addressable {c : Coordinate} (h : c.Addressable) :
    c.asWritten = c := ofAddress_address h

theorem Coordinate.get_asWritten (c : Coordinate) (a : Axis) :
    c.asWritten.get a = if c.get a ≤ 999 then c.get a else 1 := get_ofAddress_address c a

theorem Coordinate.asWritten_asWritten (c : Coordinate) : c.asWritten.asWritten = c.asWritten :=
  asWritten_of_addressable (addressable_ofAddress c.address)

namespace Record

/-- A record as its written form gives it. -/
def asWritten (r : Record) : Record := { r with coordinate := r.coordinate.asWritten }

theorem asWritten_asWritten (r : Record) : r.asWritten.asWritten = r.asWritten := by
  unfold asWritten
  rw [Coordinate.asWritten_asWritten]

theorem asWritten_of_addressable {r : Record} (h : r.coordinate.Addressable) :
    r.asWritten = r := by
  rw [asWritten, Coordinate.asWritten_of_addressable h]

theorem id_asWritten (r : Record) : r.asWritten.id = r.id := by rw [asWritten]

theorem label_asWritten (r : Record) : r.asWritten.label = r.label := by rw [asWritten]

/-- A record of instants that clocks show. -/
def Kept (r : Record) : Prop := r.createdAt.Kept ∧ r.updatedAt.Kept

theorem Kept.asWritten {r : Record} (h : r.Kept) : r.asWritten.Kept := by
  rw [Record.asWritten]
  exact ⟨h.1, h.2⟩

theorem gives_readId (i : Ident) : Gives (readId (.string (some i.text))) i := by
  refine (gives_text i.text).bind ?_
  rw [Ident.ofText?_text]
  exact gives_pure i

theorem gives_readInstant {i : Instant} (h : i.Kept) :
    Gives (readInstant (.string (some i.text))) i := by
  refine (gives_text i.text).bind ?_
  rw [Instant.ofText?_text h]
  exact gives_pure i

theorem gives_readCoordinate (c : Coordinate) :
    Gives (Coordinate.read (.string (some (Text.ofString c.address)))) c.asWritten :=
  (gives_string c.address).bind ((gives_note _).bind (gives_pure _))

theorem gives_once {α : Type} {read : Reading α} {a : α} (h : read.Gives a) :
    Gives (once none read) (some a) := h.map some

/-- The key of a member picks its field. -/
theorem gives_key (name : String) :
    Gives (Text.asString <$> ofOption (some (Text.ofString name))) name := by
  have h := (gives_pure (Text.ofString name)).map Text.asString
  rwa [Text.asString_ofString] at h

section Members

variable {f : Fields}

/-- A field that has no value yet takes that of its member. -/
theorem gives_member_id (h : f.id = none) (i : Ident) :
    Gives (f.readMember (some (Text.ofString "id")) (.string (some i.text)))
      { f with id := some i } := by
  refine (gives_key "id").bind ?_
  show Gives (once f.id (readId _) >>= fun x => pure { f with id := x }) _
  rw [h]
  exact (gives_once (gives_readId i)).bind (gives_pure _)

theorem gives_member_label (h : f.label = none) (label : String) :
    Gives (f.readMember (some (Text.ofString "label")) (.string (some (Text.ofString label))))
      { f with label := some label } := by
  refine (gives_key "label").bind ?_
  show Gives (once f.label (string _) >>= fun x => pure { f with label := x }) _
  rw [h]
  exact (gives_once (gives_string label)).bind (gives_pure _)

theorem gives_member_createdAt (h : f.createdAt = none) {i : Instant} (hi : i.Kept) :
    Gives (f.readMember (some (Text.ofString "created_at")) (.string (some i.text)))
      { f with createdAt := some i } := by
  refine (gives_key "created_at").bind ?_
  show Gives (once f.createdAt (readInstant _) >>= fun x => pure { f with createdAt := x }) _
  rw [h]
  exact (gives_once (gives_readInstant hi)).bind (gives_pure _)

theorem gives_member_updatedAt (h : f.updatedAt = none) {i : Instant} (hi : i.Kept) :
    Gives (f.readMember (some (Text.ofString "updated_at")) (.string (some i.text)))
      { f with updatedAt := some i } := by
  refine (gives_key "updated_at").bind ?_
  show Gives (once f.updatedAt (readInstant _) >>= fun x => pure { f with updatedAt := x }) _
  rw [h]
  exact (gives_once (gives_readInstant hi)).bind (gives_pure _)

theorem gives_member_coordinate (h : f.coordinate = none) (c : Coordinate) :
    Gives (f.readMember (some (Text.ofString "coordinate"))
      (.string (some (Text.ofString c.address)))) { f with coordinate := some c.asWritten } := by
  refine (gives_key "coordinate").bind ?_
  show Gives (once f.coordinate (Coordinate.read _) >>= fun x =>
    pure { f with coordinate := x }) _
  rw [h]
  exact (gives_once (gives_readCoordinate c)).bind (gives_pure _)

end Members

/-- The members that a record is written with. -/
theorem tree_draft (r : Record) :
    r.draft.tree = .object
      [(some (Text.ofString "id"), .string (some r.id.text)),
        (some (Text.ofString "label"), .string (some (Text.ofString r.label))),
        (some (Text.ofString "created_at"), .string (some r.createdAt.text)),
        (some (Text.ofString "updated_at"), .string (some r.updatedAt.text)),
        (some (Text.ofString "coordinate"),
          .string (some (Text.ofString r.coordinate.address)))] := rfl

/-- A written record is read member by member. -/
theorem gives_read {r : Record} (h : r.Kept) : Gives (read r.draft.tree) r.asWritten := by
  rw [tree_draft, read]
  refine Gives.bind (a := ⟨some r.id, some r.label, some r.createdAt, some r.updatedAt,
    some r.coordinate.asWritten⟩) ?_ (gives_pure _)
  simp only [Fields.readMembers]
  refine (gives_member_id rfl r.id).bind ?_
  refine (gives_member_label rfl r.label).bind ?_
  refine (gives_member_createdAt rfl h.1).bind ?_
  refine (gives_member_updatedAt rfl h.2).bind ?_
  exact (gives_member_coordinate rfl r.coordinate).bind (gives_pure _)

end Record

/-! ## Indices -/

namespace Index

/-- An index as its written form gives it. -/
def asWritten (index : Index) : Index := index.map Record.asWritten

/-- The members of a written index. -/
def members (entries : List (String × Record)) : List (Option Text × Json) :=
  entries.map fun (label, r) => (some (Text.ofString label), r.draft.tree)

theorem tree_draft (index : Index) : index.draft.tree = .object (members index.entries) := by
  rw [draft, Json.Draft.tree, Json.Draft.treeMembers_eq_map, List.map_map]
  rfl

/-- Records are read one after another, each put under its label. -/
theorem gives_readMembers {entries : List (String × Record)} (h : ∀ e ∈ entries, e.2.Kept)
    (start : Index) :
    Gives (readMembers (members entries) start)
      (entries.foldl (fun index e => index.put e.1 e.2.asWritten) start) := by
  induction entries generalizing start with
  | nil => exact gives_pure start
  | cons e rest ih =>
    have hrecord := Record.gives_read (h e (by simp))
    have hrest := ih (fun e he => h e (by simp [he])) (start.put e.1 e.2.asWritten)
    refine (gives_pure (Text.ofString e.1)).bind (hrecord.bind ?_)
    rw [Text.asString_ofString]
    exact hrest

/-- Entries put one after another under different labels are all kept. -/
theorem get?_foldl_put {entries : List (String × Record)}
    (h : entries.Pairwise (fun a b => a.1 < b.1)) (start : Index) (label : String) :
    (entries.foldl (fun index e => index.put e.1 e.2.asWritten) start).get? label =
      ((Table.find label entries).map Record.asWritten).or (start.get? label) := by
  induction entries generalizing start with
  | nil => rfl
  | cons e rest ih =>
    obtain ⟨hhead, hrest⟩ := List.pairwise_cons.mp h
    rw [List.foldl_cons, ih hrest, Table.get?_put, Table.find_cons h]
    by_cases hl : label = e.1
    · subst hl
      rw [Table.find_eq_none_of_lt hhead, if_pos rfl, if_pos rfl]
      rfl
    · rw [if_neg hl, if_neg hl]

/-- **A written index is read back.** -/
theorem gives_whole_pretty {index : Index} (h : ∀ label r, index.get? label = some r → r.Kept) :
    Gives (whole read index.draft.pretty) index.asWritten := by
  have hentries : ∀ e ∈ index.entries, e.2.Kept := fun e he =>
    h e.1 e.2 (Table.get?_eq_some_iff.mpr he)
  have hread := gives_readMembers hentries .empty
  have hsame : index.entries.foldl (fun index e => index.put e.1 e.2.asWritten) .empty =
      index.asWritten := by
    refine Table.ext_get? fun label => ?_
    rw [get?_foldl_put index.sorted, asWritten, Table.get?_map]
    exact Option.or_none
  rw [hsame] at hread
  refine gives_whole ?_
  rw [tree_draft]
  exact hread

end Index

end Ninefold
