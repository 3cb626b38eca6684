import Mathlib
import Ninefold.Proofs.Disk.Refinement
import Ninefold.Proofs.Simulation
import Ninefold.Proofs.Tidiness

/-!
# Catalogs as ledgers

What a catalog gives for each label is a ledger, be it kept in memory or on
disk. A catalog in good order gives the document of a label or begins one, and
takes it back edited: after that its ledger has changed at the one label. What
an operation does is therefore said and proved once for both kinds of catalogs.
-/

namespace Ninefold

namespace Catalog

/-- The ledger of what a catalog gives in a world. -/
def ledger (c : Catalog) (w : World) : Ledger := fun label =>
  match ((c.fetch? label).perform w).1 with
  | .ok found => found.map Stored.sheet
  | .error _ => none

/-- A catalog in good order. In memory each document is kept under its label; on
disk the files are those of a catalog, the clock shows a time, and the next
identifier is not in use. -/
def InOrder (c : Catalog) (w : World) : Prop :=
  match c with
  | .memory m => ∀ {label doc}, m.fetch? label = some doc → doc.record.label = label
  | .disk root => ∃ p m, Disk.Stands ⟨root, w.cwd, p⟩ w m ∧ w.clock.Kept ∧
      ∀ {label doc}, m.fetch? label = some doc → doc.record.id ≠ .ofNat w.ids

/-- A catalog can take a document: one on disk can if the document can be
written down and its identifier is its own. -/
def Takes (c : Catalog) (w : World) (doc : Stored) : Prop :=
  match c with
  | .memory _ => True
  | .disk root => ∃ p m, Disk.Stands ⟨root, w.cwd, p⟩ w m ∧ w.clock.Kept ∧ doc.record.Kept ∧
      m.Free doc

variable {c : Catalog} {w w' : World} {label : String} {doc : Stored}

@[simp] theorem ledger_memory (m : Memory) (w : World) : (memory m).ledger w = m.ledger := rfl

theorem ledger_of_sameFiles (c : Catalog) (h : w.SameFiles w') : c.ledger w' = c.ledger w := by
  funext label
  rw [ledger, ledger, c.fetch?_of_sameFiles label h]

theorem Takes.of_sameFiles (h : c.Takes w doc) (hw : w.SameFiles w') (hclock : w'.clock = w.clock) :
    c.Takes w' doc := by
  cases c with
  | memory m => trivial
  | disk root =>
    obtain ⟨p, m, hstands, hkept, hdoc⟩ := h
    refine ⟨p, m, ?_, hclock ▸ hkept, hdoc⟩
    rw [hw.cwd]
    exact hstands.of_files hw.cwd hw.files

theorem InOrder.noted (h : c.InOrder w) (ns : List Note) : c.InOrder (w.noted ns) := by
  cases c with
  | memory m => exact h
  | disk root =>
    obtain ⟨p, m, hstands, hrest⟩ := h
    exact ⟨p, m, hstands.of_files rfl rfl, hrest⟩

/-- A document edited now can be taken as well. -/
theorem Takes.edited (h : c.Takes w doc) (t : Text) (place : Coordinate) :
    c.Takes w ((doc.withText t w.clock).moveTo place) := by
  cases c with
  | memory m => trivial
  | disk root =>
    obtain ⟨p, m, hstands, hclock, hdoc, hfree⟩ := h
    exact ⟨p, m, hstands, hclock, ⟨hdoc.1, hclock⟩, hfree⟩

end Catalog

/-- What a store on disk gives is what it stands for, as it was written. -/
theorem Disk.Stands.ledger {s : Disk.Site} {w : World} {m : Memory} (h : Disk.Stands s w m) :
    (Catalog.disk s.root).ledger w =
      fun label => ((m.fetch? label).map Stored.asWritten).map Stored.sheet := by
  funext label
  have hfetch : (((Catalog.disk s.root).fetch? label).perform w).1 =
      .ok ((m.fetch? label).map Stored.asWritten) := h.fetch? label
  rw [Catalog.ledger, hfetch]

namespace Catalog

variable {c : Catalog} {w : World} {doc : Stored}

/-- A store that has not begun yet is in good order. -/
theorem inOrder_of_vacant {root : String} (h : Disk.Vacant root w.files w.cwd)
    (hclock : w.clock.Kept) : (disk root).InOrder w := by
  obtain ⟨p, hstands, -⟩ := h.stands
  exact ⟨p, .empty, hstands, hclock, fun hfound => by cases hfound⟩

/-- A catalog in good order gives the document of a label or begins one, as its
ledger says, and can take it. -/
theorem InOrder.fetchOrStart (h : c.InOrder w) (label : String) :
    ∃ doc w', (c.fetchOrStart label).perform w = (.ok doc, w') ∧ w.SameFiles w' ∧
      w'.clock = w.clock ∧ doc.record.label = label ∧
      doc.sheet = (c.ledger w).begun label ∧ c.Takes w' doc := by
  cases c with
  | memory m =>
    rw [Catalog.fetchOrStart, Act.perform_bind_ok (perform_fetch? m label w), ledger_memory,
      Ledger.begun, Memory.ledger]
    cases hfound : m.fetch? label with
    | some doc => exact ⟨doc, w, rfl, ⟨rfl, rfl⟩, rfl, h hfound, rfl, trivial⟩
    | none => exact ⟨_, _, rfl, ⟨rfl, rfl⟩, rfl, rfl, rfl, trivial⟩
  | disk root =>
    obtain ⟨p, m, hstands, hclock, hid⟩ := h
    obtain ⟨ns, hfetch⟩ : ∃ ns, ((disk root).fetch? label).perform w =
        (.ok ((m.fetch? label).map Stored.asWritten), w.noted ns) := by
      obtain ⟨ns, hlook⟩ := Act.exists_perform_eq_noted (Disk.asksOnly_fetch? root label) w
      exact ⟨ns, hlook.trans (Prod.ext (hstands.fetch? label) rfl)⟩
    have hsheet : (disk root).ledger w label =
        ((m.fetch? label).map Stored.asWritten).map Stored.sheet := congrFun hstands.ledger label
    rw [Catalog.fetchOrStart, Act.perform_bind_ok hfetch, Ledger.begun, hsheet]
    have hafter : Disk.Stands ⟨root, w.cwd, p⟩ (w.noted ns) m := hstands.of_files rfl rfl
    cases hfound : m.fetch? label with
    | some doc =>
      have hlabel : doc.asWritten.record.label = label :=
        (Record.label_asWritten doc.record).trans (hstands.filed.label hfound)
      have hown : m.Free doc.asWritten := by
        intro label' old hold hsame
        rw [hlabel]
        exact hstands.filed.apart hold hfound (hsame.trans (Record.id_asWritten doc.record))
      exact ⟨doc.asWritten, w.noted ns, rfl, ⟨rfl, rfl⟩, rfl, hlabel, rfl, p, m, hafter, hclock,
        (hstands.filed.kept hfound).asWritten, hown⟩
    | none =>
      have hnew : m.Free (.fresh label w.clock (.ofNat w.ids)) := by
        intro label' old hold hsame
        exact absurd hsame (hid hold)
      exact ⟨.fresh label w.clock (.ofNat w.ids), { w.noted ns with ids := w.ids + 1 }, rfl,
        ⟨rfl, rfl⟩, rfl, rfl, rfl, p, m, hafter.of_files rfl rfl, hclock, ⟨hclock, hclock⟩, hnew⟩

/-- A document that a catalog takes changes its ledger at the one label. -/
theorem Takes.save (h : c.Takes w doc) (hplace : doc.record.coordinate.Addressable) :
    ∃ c' w', (c.save doc).perform w = (.ok c', w') ∧
      c'.ledger w' = (c.ledger w).set doc.record.label doc.sheet := by
  cases c with
  | memory m => exact ⟨_, _, rfl, m.ledger_save doc⟩
  | disk root =>
    obtain ⟨p, m, hstands, -, hdoc, hfree⟩ := h
    obtain ⟨⟨w', hsave, hafter, -⟩, -⟩ := hstands.save hdoc hfree
    refine ⟨.disk root, w', Act.perform_bind_ok hsave _, ?_⟩
    rw [hafter.ledger, hstands.ledger]
    funext label
    rw [Memory.fetch?_save, Ledger.set]
    split
    · rw [Option.map_some, Stored.asWritten_of_addressable hplace, Option.map_some]
    · rfl

end Catalog

end Ninefold
