import Mathlib
import Ninefold.Proofs.Disk.Service

/-!
# A catalog on disk as one in memory

A catalog on disk answers every use as one in memory does, use after use, as
long as every document that is saved can be read back and has an identifier
that no other label holds.
-/

namespace Ninefold

/-- A use of a catalog. -/
inductive Use where
  | save (doc : Stored)
  | fetch (label : String)
  | list
  | delete (label : String)

/-- What a use of a catalog comes to. -/
inductive Answer where
  | done
  | document (doc : Stored)
  | records (rs : List Record)
deriving DecidableEq

namespace Catalog

/-- A catalog used: the catalog after it, and the answer. -/
def use (c : Catalog) : Use → Act (Catalog × Answer)
  | .save doc => do return (← c.save doc, .done)
  | .fetch label => do return (c, .document (← c.fetch label))
  | .list => do return (c, .records (← c.list))
  | .delete label => do return (← c.delete label, .done)

/-- The answers of a catalog to one use after another. -/
def answers (c : Catalog) : List Use → World → List (Except Failure Answer)
  | [], _ => []
  | u :: rest, w =>
    match (c.use u).perform w with
    | (.ok (c', a), w') => .ok a :: c'.answers rest w'
    | (.error e, w') => .error e :: c.answers rest w'

theorem answers_ok {c c' : Catalog} {u : Use} {a : Answer} {w w' : World}
    (h : (c.use u).perform w = (.ok (c', a), w')) (rest : List Use) :
    c.answers (u :: rest) w = .ok a :: c'.answers rest w' := by
  rw [answers, h]

theorem answers_error {c : Catalog} {u : Use} {e : Failure} {w w' : World}
    (h : (c.use u).perform w = (.error e, w')) (rest : List Use) :
    c.answers (u :: rest) w = .error e :: c.answers rest w' := by
  rw [answers, h]

end Catalog

namespace Memory

/-- Uses of a catalog in which every document that is saved stands at a
coordinate that an address can name, was changed at times that clocks show, and
has an identifier that no other label holds at the time. -/
def Admits (m : Memory) : List Use → Prop
  | [] => True
  | .save doc :: rest =>
    doc.record.coordinate.Addressable ∧ doc.record.Kept ∧ m.Free doc ∧ Admits (m.save doc) rest
  | .delete label :: rest => Admits (m.erase label) rest
  | .fetch _ :: rest => m.Admits rest
  | .list :: rest => m.Admits rest

/-- Every document of the catalog stands at a coordinate that an address can
name. -/
def Addressable (m : Memory) : Prop :=
  ∀ {label doc}, m.fetch? label = some doc → doc.record.coordinate.Addressable

variable {m : Memory}

theorem Addressable.save (h : m.Addressable) {doc : Stored}
    (hdoc : doc.record.coordinate.Addressable) : (m.save doc).Addressable := by
  intro label old hold
  rw [fetch?_save] at hold
  split at hold
  · cases hold; exact hdoc
  · exact h hold

theorem Addressable.erase (h : m.Addressable) (label : String) :
    Addressable (m.erase label) := by
  intro label' old hold
  rw [fetch?_erase] at hold
  split at hold
  · cases hold
  · exact h hold

theorem Addressable.asWritten_list (h : m.Addressable) :
    m.list.map Record.asWritten = m.list := by
  have hrecord : ∀ r ∈ m.list, r.asWritten = r := by
    intro r hr
    obtain ⟨doc, hdoc, rfl⟩ := List.mem_map.mp hr
    obtain ⟨e, he, rfl⟩ := List.mem_map.mp hdoc
    have hfetch : m.fetch? e.1 = some e.2 := Table.get?_eq_some_iff.mpr he
    exact Record.asWritten_of_addressable (h hfetch)
  rw [List.map_congr_left hrecord, List.map_id']

end Memory

/-! ## One use of a catalog in memory -/

namespace Catalog

variable {m : Memory} {label : String} {doc : Stored}

theorem perform_fetch_some {c : Catalog} {w w' : World}
    (h : (c.fetch? label).perform w = (.ok (some doc), w')) :
    (c.use (.fetch label)).perform w = (.ok (c, .document doc), w') := by
  have hfetch : (c.fetch label).perform w = (.ok doc, w') := Act.perform_bind_ok h _
  exact Act.perform_bind_ok hfetch _

theorem perform_fetch_none {c : Catalog} {w w' : World}
    (h : (c.fetch? label).perform w = (.ok none, w')) :
    (c.use (.fetch label)).perform w = (.error (.unknownLabel label), w') := by
  have hfetch : (c.fetch label).perform w = (.error (.unknownLabel label), w') :=
    Act.perform_bind_ok h _
  exact Act.perform_bind_error hfetch _

theorem memory_delete (h : m.fetch? label = some doc) (w : World) :
    ((memory m).use (.delete label)).perform w = (.ok (memory (m.erase label), .done), w) := by
  have hdelete : ((memory m).delete label).perform w = (.ok (memory (m.erase label)), w) := by
    refine (Act.perform_bind_ok (Act.perform_ofExcept (m.delete label) w |>.trans ?_) _)
    rw [Memory.delete_of_fetch?_some h]
  exact Act.perform_bind_ok hdelete _

theorem memory_delete_unknown (h : m.fetch? label = none) (w : World) :
    ((memory m).use (.delete label)).perform w = (.error (.unknownLabel label), w) := by
  have hdelete : ((memory m).delete label).perform w = (.error (.unknownLabel label), w) := by
    refine (Act.perform_bind_error (Act.perform_ofExcept (m.delete label) w |>.trans ?_) _)
    rw [Memory.delete_of_fetch?_none h]
  exact Act.perform_bind_error hdelete _

end Catalog

/-! ## One use of a catalog on disk -/

namespace Disk

variable {s : Site} {m : Memory} {w : World} {label : String} {doc : Stored}

section Stands

variable (h : Stands s w m)

include h

theorem Stands.use_save (hkept : doc.record.Kept) (hfree : m.Free doc) :
    ∃ w', ((Catalog.disk s.root).use (.save doc)).perform w =
      (.ok (.disk s.root, .done), w') ∧ Stands s w' (m.save doc) := by
  obtain ⟨⟨w', hrun, hafter, -⟩, -⟩ := h.save hkept hfree
  have hsave : ((Catalog.disk s.root).save doc).perform w = (.ok (.disk s.root), w') :=
    Act.perform_bind_ok hrun _
  exact ⟨w', Act.perform_bind_ok hsave _, hafter⟩

/-- Whatever is only looked up, the store goes on standing for the catalog. -/
theorem Stands.of_quiet {α : Type} {a : Act α} (hq : a.AsksOnly Request.Quiet) :
    Stands s (a.perform w).2 m :=
  h.of_files (a.cwd_perform w) (Act.files_perform hq w)

theorem Stands.use_fetch_some (hdoc : m.fetch? label = some doc) :
    ∃ w', ((Catalog.disk s.root).use (.fetch label)).perform w =
      (.ok (.disk s.root, .document doc.asWritten), w') ∧ Stands s w' m := by
  have hfetch := h.fetch? label
  rw [hdoc] at hfetch
  exact ⟨_, Catalog.perform_fetch_some (Prod.ext hfetch rfl),
    h.of_quiet (quiet_fetch? s.root label)⟩

theorem Stands.use_fetch_none (hnone : m.fetch? label = none) :
    ∃ w', ((Catalog.disk s.root).use (.fetch label)).perform w =
      (.error (.unknownLabel label), w') ∧ Stands s w' m := by
  have hfetch := h.fetch? label
  rw [hnone] at hfetch
  exact ⟨_, Catalog.perform_fetch_none (Prod.ext hfetch rfl),
    h.of_quiet (quiet_fetch? s.root label)⟩

theorem Stands.use_list :
    ∃ w', ((Catalog.disk s.root).use .list).perform w =
      (.ok (.disk s.root, .records (m.list.map Record.asWritten)), w') ∧ Stands s w' m := by
  obtain ⟨w', hlist⟩ := Act.exists_perform_eq h.list
  have hafter := h.of_quiet (quiet_list s.root)
  rw [hlist] at hafter
  exact ⟨w', Act.perform_bind_ok hlist _, hafter⟩

theorem Stands.use_delete (hdoc : m.fetch? label = some doc) :
    ∃ w', ((Catalog.disk s.root).use (.delete label)).perform w =
      (.ok (.disk s.root, .done), w') ∧ Stands s w' (Table.erase m label) := by
  obtain ⟨⟨w', hrun, hafter, -⟩, -⟩ := h.delete hdoc
  have hdelete : ((Catalog.disk s.root).delete label).perform w = (.ok (.disk s.root), w') :=
    Act.perform_bind_ok hrun _
  exact ⟨w', Act.perform_bind_ok hdelete _, hafter⟩

theorem Stands.use_delete_unknown (hnone : m.fetch? label = none) :
    ∃ w', ((Catalog.disk s.root).use (.delete label)).perform w =
      (.error (.unknownLabel label), w') ∧ Stands s w' m := by
  obtain ⟨⟨w', hrun, -, hafter⟩, -⟩ := h.delete_unknown hnone
  have hdelete : ((Catalog.disk s.root).delete label).perform w =
      (.error (.unknownLabel label), w') := Act.perform_bind_error hrun _
  exact ⟨w', Act.perform_bind_error hdelete _, hafter⟩

end Stands

/-! ## Use after use -/

/-- A store that stands for a catalog answers as the catalog does. -/
theorem Stands.answers {uses : List Use} (h : Stands s w m) (hm : m.Addressable)
    (huses : m.Admits uses) (w' : World) :
    (Catalog.disk s.root).answers uses w = (Catalog.memory m).answers uses w' := by
  induction uses generalizing m w with
  | nil => rfl
  | cons u rest ih =>
    cases u with
    | save doc =>
      obtain ⟨hc, hkept, hfree, hrest⟩ := huses
      obtain ⟨w₁, hrun, hafter⟩ := h.use_save hkept hfree
      have hmemory : ((Catalog.memory m).use (.save doc)).perform w' =
          (.ok (.memory (m.save doc), .done), w') := rfl
      rw [Catalog.answers_ok hrun, Catalog.answers_ok hmemory, ih hafter (hm.save hc) hrest]
    | fetch label =>
      cases hdoc : m.fetch? label with
      | none =>
        obtain ⟨w₁, hrun, hafter⟩ := h.use_fetch_none hdoc
        have hmemory := Catalog.perform_fetch_none (c := .memory m) (w := w')
          (congrArg (fun found => (Except.ok found, w')) hdoc)
        rw [Catalog.answers_error hrun, Catalog.answers_error hmemory, ih hafter hm huses]
      | some doc =>
        obtain ⟨w₁, hrun, hafter⟩ := h.use_fetch_some hdoc
        have hmemory := Catalog.perform_fetch_some (c := .memory m) (w := w')
          (congrArg (fun found => (Except.ok found, w')) hdoc)
        rw [Catalog.answers_ok hrun, Catalog.answers_ok hmemory,
          Stored.asWritten_of_addressable (hm hdoc), ih hafter hm huses]
    | list =>
      obtain ⟨w₁, hrun, hafter⟩ := h.use_list
      have hmemory : ((Catalog.memory m).use .list).perform w' =
          (.ok (.memory m, .records m.list), w') := rfl
      rw [Catalog.answers_ok hrun, Catalog.answers_ok hmemory, hm.asWritten_list,
        ih hafter hm huses]
    | delete label =>
      cases hdoc : m.fetch? label with
      | none =>
        obtain ⟨w₁, hrun, hafter⟩ := h.use_delete_unknown hdoc
        have hrest : m.Admits rest := by
          have hrest : Memory.Admits (Table.erase m label) rest := huses
          rwa [Memory.erase_of_fetch?_none hdoc] at hrest
        rw [Catalog.answers_error hrun,
          Catalog.answers_error (Catalog.memory_delete_unknown hdoc w'), ih hafter hm hrest]
      | some doc =>
        obtain ⟨w₁, hrun, hafter⟩ := h.use_delete hdoc
        rw [Catalog.answers_ok hrun, Catalog.answers_ok (Catalog.memory_delete hdoc w'),
          ih hafter (hm.erase label) huses]

/-- **A catalog on disk answers as one in memory.** Starting where its directory
is vacant, a catalog on disk gives every use of a sequence the answer that an
empty catalog in memory gives it: the same documents and records, and the same
refusals. The world of the catalog in memory does not matter. -/
theorem answers_eq_memory {root : String} {uses : List Use}
    (hv : Vacant root w.files w.cwd) (huses : Memory.Admits .empty uses) (w' : World) :
    (Catalog.disk root).answers uses w = (Catalog.memory .empty).answers uses w' := by
  obtain ⟨p, hstands, -⟩ := hv.stands
  have hnone : Memory.Addressable .empty := fun h => by cases h
  exact hstands.answers hnone huses w'

/-- Two documents saved, listed, fetched and deleted. -/
def usesOfTwo : List Use :=
  [.save ((Stored.fresh "b" default (.ofNat 1)).withText ['x'] default),
    .save (Stored.fresh "a" default (.ofNat 2)), .list, .fetch "b", .delete "b", .fetch "b"]

theorem answers_eq_memory_of_two :
    Vacant "home" World.bare.files World.bare.cwd ∧ Memory.Admits .empty usesOfTwo ∧
      (Catalog.disk "home").answers usesOfTwo .bare =
        (Catalog.memory .empty).answers usesOfTwo .bare := by
  have hvacant : Vacant "home" World.bare.files World.bare.cwd := ⟨rfl, rfl, by decide⟩
  have hplace : Coordinate.origin.Addressable := fun a => by rw [Coordinate.get_origin]; decide
  have hkept : (default : Instant).Kept := ⟨by decide, by decide, by decide⟩
  have hfirst : Memory.Free .empty
      ((Stored.fresh "b" default (.ofNat 1)).withText ['x'] default) := fun h => by cases h
  have hsecond : Memory.Free
      (Memory.save .empty ((Stored.fresh "b" default (.ofNat 1)).withText ['x'] default))
      (Stored.fresh "a" default (.ofNat 2)) := by
    intro label old hold hid
    rw [Memory.fetch?_save] at hold
    split at hold
    · cases hold
      exact absurd hid (by decide)
    · cases hold
  have hadmits : Memory.Admits .empty usesOfTwo :=
    ⟨hplace, ⟨hkept, hkept⟩, hfirst, hplace, ⟨hkept, hkept⟩, hsecond, trivial⟩
  exact ⟨hvacant, hadmits, answers_eq_memory hvacant hadmits .bare⟩

end Disk

end Ninefold
