import Mathlib
import Ninefold.Proofs.Brevity
import Ninefold.Proofs.Edits
import Ninefold.Proofs.Odometer

/-!
# What one more cell costs

A cell put between two others splits the way from the one to the other. The way
on from the new cell has no step that the old way had not, so at most the steps
to the new cell come in addition, and these are at most as many as lead there
from the origin. A cell taken out joins two ways to one that is no longer. So an
edit at an address that can be named costs a bounded number of delimiters,
whatever the document holds.
-/

namespace Ninefold

namespace Weave

open Coordinate

variable {d : Delimiters} {p c : Coordinate} {t : Text} {layer : Layer}

/-! ## The way from the origin -/

@[simp] theorem length_climb (axes : List Axis) (c : Coordinate) :
    (climb axes c).length = (axes.map fun a => c.get a - 1).sum := by
  simp [climb, List.length_flatMap]

/-- To a coordinate that an address can name the way is not long. -/
theorem length_climb_le (hc : c.Addressable) (axes : List Axis) :
    (climb axes c).length ≤ axes.length * (Position.lastNamed - 1) := by
  rw [length_climb]
  refine (List.sum_le_card_nsmul _ (Position.lastNamed - 1) fun n hn => ?_).trans (by simp)
  obtain ⟨a, -, rfl⟩ := List.mem_map.mp hn
  exact Nat.sub_le_sub_right (hc a) 1

/-! ## A cell more and a cell less -/

/-- A cell passed over costs nothing. -/
theorem Ahead.length_stream_skip_le (h : Ahead d p ((c, t) :: layer)) :
    (stream d Axis.all p layer).length ≤ (stream d Axis.all p ((c, t) :: layer)).length := by
  cases layer with
  | nil => exact Nat.zero_le _
  | cons e rest =>
    -- the two ways that meet at the cell are together no shorter than the one past it
    have hway : (steps Axis.all p e.1).length ≤
        (steps Axis.all p c).length + (steps Axis.all c e.1).length :=
      length_steps_le (h.start _ List.mem_cons_self) (h.tail.start e List.mem_cons_self)
    simp only [stream, List.length_append, List.length_map]
    omega

/-- A cell written costs its text and the steps to it, at most. -/
theorem Ahead.length_stream_put_le (h : Ahead d p layer) (hc : p = c ∨ p < c) :
    (stream d Axis.all p (Table.change c (fun _ => some t) layer)).length ≤
      (stream d Axis.all p layer).length + (steps Axis.all p c).length + t.length := by
  induction layer generalizing p with
  | nil => simp [Table.change, stream]
  | cons e rest ih =>
    simp only [Table.change]
    split
    next hbefore =>
      -- the way on from the new cell is part of the old way
      have hway := (steps_sublist_of_le hc (.inr hbefore)).length_le
      simp only [Option.map_some, Option.toList_some, List.singleton_append, stream,
        List.length_append, List.length_map]
      omega
    next hnot =>
      split
      next hbehind =>
        -- the cells up to there stay, and from the last of them the way is shorter
        have hrest := ih h.tail (.inr hbehind)
        have hway :=
          (steps_sublist_of_le (h.start e List.mem_cons_self) (.inr hbehind)).length_le
        simp only [stream, List.length_append, List.length_map]
        omega
      next hnot' =>
        obtain rfl : c = e.1 := KeyOrder.connected hnot hnot'
        simp only [Option.map_some, Option.toList_some, List.singleton_append, stream,
          List.length_append, List.length_map]
        omega

/-- A cell taken out costs nothing. -/
theorem Ahead.length_stream_erase_le (h : Ahead d p layer) (c : Coordinate) :
    (stream d Axis.all p (Table.change c (fun _ => none) layer)).length ≤
      (stream d Axis.all p layer).length := by
  induction layer generalizing p with
  | nil => exact Nat.le_refl _
  | cons e rest ih =>
    simp only [Table.change]
    split
    · exact Nat.le_refl _
    · split
      · have hrest := ih h.tail
        simp only [stream, List.length_append]
        omega
      · exact h.length_stream_skip_le

end Weave

/-! ## Written into a document -/

open Weave

/-- What is written costs its text and the steps from the origin, at most. -/
theorem Cells.Plain.length_weave_write_le {d : Delimiters} {cells : Cells} (h : cells.Plain d)
    (c : Coordinate) (t : Text) :
    (weave d (cells.write c t)).length ≤
      (weave d cells).length + (climb Axis.all c).length + t.length := by
  rw [weave_eq_stream, weave_eq_stream, Cells.write, climb_eq_steps]
  split
  · exact (h.ahead.length_stream_erase_le c).trans (by omega)
  · exact h.ahead.length_stream_put_le (origin_le c)

/-- To write nothing costs nothing. -/
theorem Cells.Plain.length_weave_clear_le {d : Delimiters} {cells : Cells} (h : cells.Plain d)
    (c : Coordinate) : (weave d (cells.write c [])).length ≤ (weave d cells).length := by
  rw [weave_eq_stream, weave_eq_stream]
  exact h.ahead.length_stream_erase_le c

namespace Document

variable {doc : Document} {c : Coordinate} {t : Text}

theorem length_weave_cells_le (h : doc.raw.length < Position.limit) :
    (weave doc.delimiters doc.cells).length ≤ doc.raw.length := by
  rw [← raw_ofCells]
  exact (normalize_sublist h).length_le

/-- To write costs the text and the steps from the origin, at most. -/
theorem length_write_le (h : doc.raw.length < Position.limit) (c : Coordinate) (t : Text) :
    (doc.write c t).raw.length ≤ doc.raw.length + (climb Axis.all c).length + t.length := by
  have hwrite := doc.plain_cells.length_weave_write_le c t
  have hnormal := length_weave_cells_le h
  rw [write, raw_ofCells]
  exact hwrite.trans (by gcongr)

/-- Removing never makes a document longer. -/
theorem length_remove_le (h : doc.raw.length < Position.limit) (c : Coordinate) :
    (doc.remove c).raw.length ≤ doc.raw.length := by
  rw [remove_eq, write, raw_ofCells]
  exact (doc.plain_cells.length_weave_clear_le c).trans (length_weave_cells_le h)

/-- **One address costs a bounded number of delimiters.** A replacement at a
coordinate that an address can name makes a document longer by no more than the
text and the 9 · 998 delimiters that lead there from the origin, whatever
scrolls surround it. -/
theorem replace_costs_at_most (h : doc.raw.length < Position.limit) (hc : c.Addressable)
    (ht : ∀ ch ∈ t, ¬ doc.delimiters.reserves ch) :
    ∃ after, doc.replace c t = .ok after ∧
      after.raw.length ≤ doc.raw.length + t.length + 9 * 998 := by
  refine ⟨_, replace_eq (Delimiters.firstReserved?_eq_none_of_free ht), ?_⟩
  have hwrite := length_write_le h c t
  have hclimb : (climb Axis.all c).length ≤ 9 * 998 := length_climb_le hc Axis.all
  omega

/-- A letter written into the empty document at the last address costs as much
as one address can. -/
theorem replace_costs_at_most_last :
    (ofText []).raw.length < Position.limit ∧ Coordinate.last.Addressable ∧
      (∀ ch ∈ ['x'], ¬ (ofText []).delimiters.reserves ch) ∧
      ∃ after, (ofText []).replace .last ['x'] = .ok after ∧
        after.raw.length ≤ (ofText []).raw.length + ['x'].length + 9 * 998 ∧
        after.raw.length = 1 + 9 * 998 := by
  have hshort : (ofText []).raw.length < Position.limit := by decide
  have hfree : ∀ ch ∈ ['x'], ¬ (ofText []).delimiters.reserves ch := by
    intro ch hch
    rw [List.mem_singleton.mp hch]
    decide
  obtain ⟨after, hafter, hcost⟩ :=
    replace_costs_at_most hshort Coordinate.addressable_last hfree
  refine ⟨hshort, Coordinate.addressable_last, hfree, after, hafter, hcost, ?_⟩
  obtain ⟨-, rfl⟩ := replace_eq_ok_iff.mp hafter
  have hentries : ((ofText []).cells.write .last ['x']).entries = [(.last, ['x'])] := rfl
  rw [write, raw_ofCells, weave_eq_stream, hentries, stream, stream, ← climb_eq_steps]
  simp only [List.length_append, List.length_map, length_climb, Coordinate.get_last]
  rfl

end Document

end Ninefold
