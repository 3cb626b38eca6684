import Mathlib
import Ninefold.Proofs.Odometer

/-!
# Subtrees

A coordinate and an axis have a subtree: the coordinates that are the same down
to that axis, whatever they are on the finer ones. The steps on the axis lead
between whole subtrees. Counting on from any coordinate of one, a text comes to
the first coordinate behind all of it, and a step among the coordinates that an
address can name comes to the same as long as there is a next sibling.
-/

namespace Ninefold.Coordinate

variable {c d : Coordinate} {a : Axis}

/-! ## The coordinates of a subtree -/

/-- The coordinates that agree with one on an axis and on all coarser axes. -/
def subtree (c : Coordinate) (a : Axis) : Set Coordinate :=
  {d | ∀ b : Axis, b.index ≤ a.index → d.get b = c.get b}

/-- The first coordinate of a subtree. -/
def subtreeStart (c : Coordinate) (a : Axis) : Coordinate := c.restart a (c.position a)

/-- The last coordinate of a subtree. -/
def subtreeEnd (c : Coordinate) (a : Axis) : Coordinate :=
  ofPositions fun b => if b.index ≤ a.index then c.position b else .nearest Position.limit

theorem get_subtreeStart (c : Coordinate) (a b : Axis) :
    (c.subtreeStart a).get b = if b.index ≤ a.index then c.get b else 1 := by
  rw [subtreeStart, get_restart]
  rcases Nat.lt_trichotomy b.index a.index with hb | hb | hb
  · rw [if_pos hb, if_pos hb.le]
  · obtain rfl := Axis.index_injective hb
    rw [if_neg (Nat.lt_irrefl _), if_pos rfl, if_pos (Nat.le_refl _)]
    rfl
  · have hne : b ≠ a := by
      rintro rfl
      omega
    rw [if_neg (by omega), if_neg hne, if_neg (by omega)]

theorem subtreeEnd_mem_subtree (c : Coordinate) (a : Axis) : c.subtreeEnd a ∈ c.subtree a := by
  intro b hb
  rw [subtreeEnd, get_ofPositions, if_pos hb]
  rfl

theorem get_subtreeEnd_of_finer {b : Axis} (h : a.index < b.index) :
    (c.subtreeEnd a).get b = Position.limit := by
  rw [subtreeEnd, get_ofPositions, if_neg (by omega)]
  rfl

/-! ## Behind a subtree -/

/-- All coordinates of a subtree lead to the same one. -/
theorem advance_of_mem_subtree (h : d ∈ c.subtree a) : d.advance a = c.advance a := by
  refine ext_get fun b => ?_
  rw [get_advance, get_advance, h a (Nat.le_refl _)]
  by_cases hb : b.index < a.index
  · rw [if_pos hb, if_pos hb, h b hb.le]
  · rw [if_neg hb, if_neg hb]

theorem lt_advance_of_mem_subtree (hroom : c.get a < Position.limit) (h : d ∈ c.subtree a) :
    d < c.advance a := by
  rw [← advance_of_mem_subtree h]
  exact lt_advance (by rwa [h a (Nat.le_refl _)])

/-- No coordinate behind all of a subtree lies before the one that it leads
to. -/
theorem not_lt_advance (h : ∀ e ∈ c.subtree a, e < d) : ¬ d < c.advance a := by
  -- the last of the subtree has the largest positions on the finer axes
  have hend := subtreeEnd_mem_subtree c a
  rw [← advance_of_mem_subtree hend]
  refine not_lt_restart ?_ (fun b hb => ?_) (h _ hend)
  · rw [Position.number_after]
    exact min_le_left _ _
  · rw [get_subtreeEnd_of_finer hb]
    exact d.get_le_limit b

/-! ## To the next sibling and back -/

/-- Among the siblings that an address can name the next one is the next that a
text counts. -/
theorem next_eq_advance (h : c.get a < Position.lastNamed) : c.next a = c.advance a := by
  refine ext_get fun b => ?_
  have hlast : Position.lastNamed ≤ Position.limit := by decide
  have hnumber : min (c.get a + 1) (max (c.get a) Position.lastNamed) =
      min (c.get a + 1) Position.limit := by omega
  rw [get_next, get_advance, hnumber]

/-- The last sibling that an address can name, and any behind it, is kept. -/
theorem next_eq_subtreeStart (h : Position.lastNamed ≤ c.get a) :
    c.next a = c.subtreeStart a := by
  rw [next, if_neg (Nat.not_lt.mpr h), subtreeStart]

theorem get_previous (c : Coordinate) (a b : Axis) :
    (c.previous a).get b =
      if b.index < a.index then c.get b else if b = a then max 1 (c.get a - 1) else 1 := by
  have hlimit := c.get_le_limit a
  rw [previous, get_restart, Position.number_nearest, min_eq_left (by omega)]

/-- A step back from the next sibling leads to where the subtree begins. -/
theorem previous_next (h : c.get a < Position.lastNamed) :
    (c.next a).previous a = c.subtreeStart a := by
  have hone := c.one_le_get a
  have hnext : (c.next a).get a = c.get a + 1 := by
    rw [get_next, if_neg (Nat.lt_irrefl _), if_pos rfl]
    omega
  refine ext_get fun b => ?_
  rw [get_previous, hnext, Nat.add_sub_cancel, max_eq_right hone, subtreeStart, get_restart]
  by_cases hb : b.index < a.index
  · rw [if_pos hb, if_pos hb, get_next, if_pos hb]
  · rw [if_neg hb, if_neg hb]
    rfl

/-- **Steps lead between whole subtrees.** Unless its axis is full, counting on
leads to the least coordinate behind all that agree on the axis and on the
coarser ones. As far as an address can name a next sibling, the step to it leads
to the same coordinate, and the step back from there to where the subtree
begins; from the last such sibling on, the step itself leads to where the
subtree begins. None of the steps touches a coarser axis. -/
theorem steps_between_subtrees (c : Coordinate) (a : Axis) :
    (c.get a < Position.limit →
      (∀ d ∈ c.subtree a, d < c.advance a) ∧
        ∀ e, (∀ d ∈ c.subtree a, d < e) → c.advance a = e ∨ c.advance a < e) ∧
    (c.get a < 999 →
      c.next a = c.advance a ∧
        ∀ b, ((c.next a).previous a).get b = if b.index ≤ a.index then c.get b else 1) ∧
    (999 ≤ c.get a → ∀ b, (c.next a).get b = if b.index ≤ a.index then c.get b else 1) ∧
    ∀ b : Axis, b.index < a.index →
      (c.advance a).get b = c.get b ∧ (c.next a).get b = c.get b ∧
        (c.previous a).get b = c.get b := by
  refine ⟨fun hroom => ⟨fun d => lt_advance_of_mem_subtree hroom, fun e he => ?_⟩,
    fun hroom => ⟨next_eq_advance hroom, fun b => ?_⟩, fun hfull b => ?_,
    fun b hb => ⟨?_, ?_, ?_⟩⟩
  · by_cases hlt : c.advance a < e
    · exact .inr hlt
    · exact .inl (KeyOrder.connected hlt (not_lt_advance he))
  · rw [previous_next hroom, get_subtreeStart]
  · rw [next_eq_subtreeStart hfull, get_subtreeStart]
  · rw [get_advance, if_pos hb]
  · rw [get_next, if_pos hb]
  · rw [get_previous, if_pos hb]

/-- A coordinate in the last section of a chapter that an address can name. -/
def lastSection : Coordinate := ((origin.set .chapter 4).set .sect 999).set .scroll 7

/-- Behind the fourth chapter the fifth begins; there is no section behind the
last that an address can name. -/
theorem steps_between_subtrees_lastSection :
    lastSection.get .chapter < 999 ∧
      lastSection.advance .chapter = origin.set .chapter 5 ∧
      lastSection.next .chapter = origin.set .chapter 5 ∧
      (∀ e, (∀ d ∈ lastSection.subtree .chapter, d < e) →
        origin.set .chapter 5 = e ∨ origin.set .chapter 5 < e) ∧
      999 ≤ lastSection.get .sect ∧
      lastSection.next .sect = lastSection.set .scroll 1 := by
  have hchapter : lastSection.get .chapter < 999 := by decide
  have hsect : 999 ≤ lastSection.get .sect := by decide
  have hadvance : lastSection.advance .chapter = origin.set .chapter 5 := by decide
  obtain ⟨hleast, hnext, -⟩ := steps_between_subtrees lastSection .chapter
  obtain ⟨-, -, hkept, -⟩ := steps_between_subtrees lastSection .sect
  refine ⟨hchapter, hadvance, (hnext hchapter).1.trans hadvance,
    hadvance ▸ (hleast (by decide)).2, hsect, ext_get fun b => (hkept hsect b).trans ?_⟩
  cases b <;> decide

end Ninefold.Coordinate
