import Mathlib
import Ninefold.Proofs.Addressing
import Ninefold.Proofs.Pen

/-!
# Documents stand where an address leads

Addresses, records in a file, a value set on an axis, steps to a neighbour and
the odometer that places the files of a directory all lead to coordinates that
an address can name, and these are the only ways to one that a document stands
at or that is edited. Only the count along a text goes further.
-/

namespace Ninefold

namespace Coordinate

variable {c : Coordinate}

theorem Addressable.set (h : c.Addressable) (a : Axis) (n : Nat) : (c.set a n).Addressable := by
  intro b
  rw [get_set]
  split
  · exact max_le (by decide) (min_le_right _ _)
  · exact h b

/-- A step that lands on an addressable position is one to an addressable
coordinate. -/
theorem Addressable.restart (h : c.Addressable) (a : Axis) {p : Position}
    (hp : p.number ≤ Position.lastNamed) : (c.restart a p).Addressable := by
  intro b
  rw [get_restart]
  split
  · exact h b
  · split
    · exact hp
    · decide

theorem Addressable.next (h : c.Addressable) (a : Axis) : (c.next a).Addressable := by
  refine h.restart a ?_
  split
  next hroom =>
    rw [Position.number_after]
    have hnumber : c.get a = (c.position a).number := rfl
    omega
  next => exact h a

theorem Addressable.previous (h : c.Addressable) (a : Axis) : (c.previous a).Addressable := by
  refine h.restart a ?_
  have := h a
  rw [Position.number_nearest]
  have hlast : Position.lastNamed = 999 := rfl
  omega

end Coordinate

namespace Rule

/-- Documents stand at addressable coordinates. -/
def addressable : Rule where
  place := Coordinate.Addressable
  label _ _ := True
  text _ := True
  place_origin := Coordinate.addressable_origin
  place_ofAddress := Coordinate.addressable_ofAddress
  place_set a n h := h.set a n
  place_next a h := h.next a
  place_previous a h := h.previous a
  label_self _ := trivial
  label_trimmed _ := trivial
  text_plain _ := trivial
  text_weave _ _ := trivial

variable {home : Home} {cwd : Place}

/-- The rule asks nothing of files: any record that is read is addressable. -/
theorem obeys_addressable (files : FileTree) : files.Obeys (addressable.law home cwd) :=
  fun p _ _ _ _ => allows_of_text (fun _ _ => trivial) trivial p

theorem permits_addressable (d : Session.Demand) : addressable.Permits home cwd d where
  imports _ _ := trivial
  writes path _ _ _ := allows_of_text (fun _ _ => trivial) trivial (Path.place cwd path)

end Rule

namespace Session

variable {s s' : Session} {w w' : World}

/-- **Documents stand, and are edited, where an address leads.** Whatever is
asked of a session, whatever others do to the world in between, and whatever
index and texts lie in its store: every document that is found and every record
that is listed has a coordinate whose nine numbers are from 1 to 999, and every
operation comes to the same with any pen that is ordinary at such
coordinates. -/
theorem Reaches.in_range (h : s.Reaches (fun _ _ => True) (fun _ _ => True) w s' w')
    (hstart : ∀ m, s.catalog = .memory m → ∀ label doc, m.fetch? label = some doc →
      doc.record.coordinate.Addressable) :
    (∀ label doc, ((s'.catalog.fetch? label).perform w').1 = .ok (some doc) →
      ∀ a, 1 ≤ doc.record.coordinate.get a ∧ doc.record.coordinate.get a ≤ 999) ∧
    (∀ records, (s'.catalog.list.perform w').1 = .ok records → ∀ record ∈ records,
      ∀ a, 1 ≤ record.coordinate.get a ∧ record.coordinate.get a ≤ 999) ∧
    ∀ pen : Pen, pen.OrdinaryAt Coordinate.Addressable → ∀ c,
      (s'.callWith pen c).perform w' = (s'.call c).perform w' := by
  have hstocks : Rule.addressable.Stocks s.home s.catalog := by
    obtain ⟨catalog, root, settings⟩ := s
    cases catalog with
    | memory m => exact ⟨rfl, fun kept doc hdoc => ⟨⟨hstart m rfl kept doc hdoc, trivial⟩, trivial⟩⟩
    | disk store => rfl
  obtain ⟨hs', -⟩ := h.holds ⟨rfl, hstocks, trivial⟩ (Rule.obeys_addressable _)
    (fun _ d _ => Rule.permits_addressable d) (fun _ w' _ _ => Rule.obeys_addressable w'.files)
  have hw' : w'.Obeys (Rule.addressable.law s.home w'.cwd) := ⟨rfl, Rule.obeys_addressable _⟩
  refine ⟨fun label doc hdoc a => ?_, fun records hlist record hrecord a => ?_,
    fun pen hpen c => ?_⟩
  · have hkeeps := (Rule.upholds_fetchFrom? hs'.catalog label w' hw').2 _ hdoc doc rfl
    exact ⟨Coordinate.one_le_get _ a, hkeeps.admits.place a⟩
  · obtain ⟨kept, hknows⟩ := Catalog.knows_of_list hlist hrecord
    have hadmits := Rule.admits_of_knows hs'.catalog hw' hknows
    exact ⟨Coordinate.one_le_get _ a, hadmits.place a⟩
  · exact Rule.same_callWith hpen hs' c w' hw'

/-- A jump beyond the last scroll that an address can name. -/
def jumpFar : Demand := .call (.jump none "scroll" 5000)

/-- The document that the jump begins. -/
def jumpedDoc : Stored :=
  (Stored.fresh "holiday" default (.ofNat 0)).moveTo (.set .origin .scroll 5000)

theorem fetch_jumpFar :
    (((newNotebook.goOn jumpFar .bare).1.catalog.fetch? "holiday").perform
      (newNotebook.goOn jumpFar .bare).2).1 = .ok (some jumpedDoc) := by
  have hcatalog : (newNotebook.goOn jumpFar .bare).1.catalog =
      .memory (Memory.save .empty jumpedDoc) := rfl
  have hlabel : "holiday" = jumpedDoc.record.label := rfl
  rw [hcatalog, perform_fetch?, Memory.fetch?_save, if_pos hlabel]

/-- It ends at the last one. -/
theorem in_range_jumpFar :
    (∀ m, newNotebook.catalog = .memory m → ∀ label doc, m.fetch? label = some doc →
      doc.record.coordinate.Addressable) ∧
    newNotebook.Reaches (fun _ _ => True) (fun _ _ => True) .bare
      (newNotebook.goOn jumpFar .bare).1 (newNotebook.goOn jumpFar .bare).2 ∧
    (((newNotebook.goOn jumpFar .bare).1.catalog.fetch? "holiday").perform
      (newNotebook.goOn jumpFar .bare).2).1 = .ok (some jumpedDoc) ∧
    ∀ a, 1 ≤ jumpedDoc.record.coordinate.get a ∧ jumpedDoc.record.coordinate.get a ≤ 999 := by
  have hstart : ∀ m, newNotebook.catalog = .memory m → ∀ label doc, m.fetch? label = some doc →
      doc.record.coordinate.Addressable := by
    intro m hm label doc hdoc
    obtain rfl : Table.empty = m := Catalog.memory.inj hm
    cases hdoc
  have hrun : newNotebook.Reaches (fun _ _ => True) (fun _ _ => True) .bare
      (newNotebook.goOn jumpFar .bare).1 (newNotebook.goOn jumpFar .bare).2 :=
    .demand jumpFar .start trivial
  exact ⟨hstart, hrun, fetch_jumpFar, (hrun.in_range hstart).1 "holiday" jumpedDoc fetch_jumpFar⟩

end Session

end Ninefold
