import Ninefold.Proofs.Stream

/-!
# The shortest route

Many courses of steps lead from one coordinate to a later one, since a step
makes every step on a finer axis before it good. The steps that a woven text has
between two cells are the shortest of them: a step more takes the finer steps
out and comes last, so what is left of a course never has more than the course
itself, and a course without a step that is made good is left as it is.
-/

namespace Ninefold

namespace Weave

open Coordinate

variable {axes as : List Axis} {p q c : Coordinate} {a b : Axis}

/-! ## The steps on a list of axes -/

theorem mem_of_mem_steps (h : a ∈ steps axes p c) : a ∈ axes := by
  induction axes with
  | nil => cases h
  | cons b finer ih =>
    rw [steps] at h
    split at h
    · exact List.mem_cons_of_mem b (ih h)
    · rcases List.mem_append.mp h with h | h
      · rw [List.eq_of_mem_replicate h]
        exact List.mem_cons_self
      · obtain ⟨i, hi, ha⟩ := List.mem_flatMap.mp h
        rw [List.eq_of_mem_replicate ha]
        exact List.mem_cons_of_mem b hi

/-- A climb is the way from the origin. -/
theorem climb_eq_steps (axes : List Axis) (c : Coordinate) :
    climb axes c = steps axes .origin c := by
  induction axes with
  | nil => rfl
  | cons a finer ih =>
    have hrow : climb (a :: finer) c = List.replicate (c.get a - 1) a ++ climb finer c := rfl
    rw [hrow, steps, get_origin]
    split
    · next h => rw [← h, ih]; rfl
    · rfl

/-- Along the steps the axes only become finer. -/
theorem pairwise_steps (h : axes.Pairwise (fun a b => a.index < b.index)) (p c : Coordinate) :
    (steps axes p c).Pairwise (fun a b => a.index ≤ b.index) := by
  induction axes generalizing p with
  | nil => exact .nil
  | cons a finer ih =>
    obtain ⟨hhead, htail⟩ := List.pairwise_cons.mp h
    rw [steps]
    split
    · exact ih htail p
    · rw [climb_eq_steps]
      refine List.pairwise_append.mpr ⟨?_, ih htail .origin, fun i hi j hj => ?_⟩
      · exact List.pairwise_replicate.mpr (.inr (Nat.le_refl _))
      · rw [List.eq_of_mem_replicate hi]
        exact Nat.le_of_lt (hhead j (mem_of_mem_steps hj))

/-- Steps on finer axes alone are all taken out. -/
theorem filter_steps_of_lt (h : ∀ i ∈ axes, b.index < i.index) (p c : Coordinate) :
    (steps axes p c).filter (·.index ≤ b.index) = [] := by
  refine List.filter_eq_nil_iff.mpr fun i hi => ?_
  have := h i (mem_of_mem_steps hi)
  simp only [decide_eq_true_eq]
  omega

/-- No step is needed where the coordinate is at the first position. -/
theorem steps_origin_of_first (h : ∀ i ∈ axes, c.get i = 1) : steps axes .origin c = [] := by
  have hsame : steps axes .origin c = steps axes c c :=
    steps_congr (fun i hi => by rw [get_origin, h i hi]) fun _ _ => rfl
  rw [hsame, steps_self]

/-- One step further, the finer steps are taken out and the step comes last.
The coordinate must not lie before the start on the axis of the step, if no
coarser axis of the list has told them apart. -/
theorem steps_advance (haxes : axes.Pairwise (fun a b => a.index < b.index)) (hb : b ∈ axes)
    (hroom : c.get b < Position.limit)
    (hle : (∀ i ∈ axes, i.index < b.index → p.get i = c.get i) → p.get b ≤ c.get b) :
    steps axes p (c.advance b) = (steps axes p c).filter (·.index ≤ b.index) ++ [b] := by
  induction axes generalizing p with
  | nil => cases hb
  | cons a finer ih =>
    obtain ⟨hhead, htail⟩ := List.pairwise_cons.mp haxes
    rcases List.mem_cons.mp hb with rfl | hb
    · -- the step is on the coarsest axis of the list
      have hpc : p.get b ≤ c.get b := by
        refine hle fun i hi hlt => ?_
        rcases List.mem_cons.mp hi with rfl | hi
        · exact absurd hlt (Nat.lt_irrefl _)
        · exact absurd hlt (Nat.not_lt.mpr (Nat.le_of_lt (hhead i hi)))
      have hget : (c.advance b).get b = c.get b + 1 := by
        rw [get_advance, if_neg (Nat.lt_irrefl _), if_pos rfl]
        omega
      have hfirst : ∀ i ∈ finer, (c.advance b).get i = 1 := by
        intro i hi
        have hlt := hhead i hi
        rw [get_advance, if_neg (by omega), if_neg (fun he => by subst he; omega)]
      have hrow : List.replicate (c.get b + 1 - p.get b) b =
          List.replicate (c.get b - p.get b) b ++ [b] := by
        rw [← List.replicate_succ', Nat.succ_sub hpc]
      rw [steps, hget, if_neg (by omega), climb_eq_steps, steps_origin_of_first hfirst,
        List.append_nil, hrow, steps]
      split
      next hsame => rw [hsame, Nat.sub_self, filter_steps_of_lt hhead, List.replicate_zero]
      next => rw [List.filter_append, climb_eq_steps, filter_steps_of_lt hhead, List.append_nil,
          List.filter_replicate_of_pos (by simp)]
    · -- the step is on a finer axis
      have hlt := hhead b hb
      have hget : (c.advance b).get a = c.get a := by rw [get_advance, if_pos hlt]
      rw [steps, steps, hget]
      split
      next hsame =>
        refine ih htail hb fun hfiner => hle fun i hi hi' => ?_
        rcases List.mem_cons.mp hi with rfl | hi
        · exact hsame
        · exact hfiner i hi hi'
      next =>
        rw [climb_eq_steps, climb_eq_steps, ih htail hb fun _ => by
            rw [get_origin]; exact c.one_le_get b,
          List.filter_append, List.filter_replicate_of_pos (by simpa using Nat.le_of_lt hlt),
          List.append_assoc]

/-! ## The steps between two coordinates -/

theorem steps_all_advance (h : p = c ∨ p < c) (hroom : c.get b < Position.limit) :
    steps Axis.all p (c.advance b) =
      (steps Axis.all p c).filter (·.index ≤ b.index) ++ [b] := by
  refine steps_advance Axis.pairwise_all (Axis.mem_all b) hroom fun hsame => ?_
  rcases h with rfl | h
  · exact Nat.le_refl _
  · -- the axis that decides the order is not coarser than `b`
    obtain ⟨k, hk, hlt⟩ := lt_iff_exists.mp h
    rcases Nat.lt_trichotomy k.index b.index with hkb | hkb | hkb
    · have := hsame k (Axis.mem_all k) hkb
      omega
    · exact Axis.index_injective hkb ▸ Nat.le_of_lt hlt
    · exact Nat.le_of_eq (hk b hkb)

/-- The last step of a course that leads somewhere. -/
theorem leads_concat :
    Leads p (as ++ [b]) q ↔
      ∃ c, Leads p as c ∧ c.get b < Position.limit ∧ q = c.advance b := by
  constructor
  · rintro ⟨hrising, rfl⟩
    obtain ⟨has, hb⟩ := rising_append.mp hrising
    exact ⟨_, ⟨has, rfl⟩, hb.1, by rw [List.foldl_append]; rfl⟩
  · rintro ⟨c, ⟨has, rfl⟩, hb, rfl⟩
    exact ⟨rising_append.mpr ⟨has, hb, trivial⟩, by rw [List.foldl_append]; rfl⟩

/-- A course that rises leads to where it began or further on. -/
theorem le_of_leads (h : Leads p as c) : p = c ∨ p < c := by
  induction as using List.reverseRecOn generalizing c with
  | nil => exact .inl h.2
  | append_singleton as b ih =>
    obtain ⟨e, he, hroom, rfl⟩ := leads_concat.mp h
    rcases ih he with rfl | hlt
    · exact .inr (lt_advance hroom)
    · exact .inr (KeyOrder.trans hlt (lt_advance hroom))

/-- **The steps between two coordinates are the shortest course**: every course
from the one to the other has them all, in their order. -/
theorem steps_sublist_of_leads (h : Leads p as c) : (steps Axis.all p c).Sublist as := by
  induction as using List.reverseRecOn generalizing c with
  | nil =>
    obtain rfl : p = c := h.2
    rw [steps_self]
  | append_singleton as b ih =>
    obtain ⟨e, he, hroom, rfl⟩ := leads_concat.mp h
    rw [steps_all_advance (le_of_leads he) hroom]
    exact (List.filter_sublist.trans (ih he)).append_right [b]

/-- A course on which the axes only become finer is the shortest. -/
theorem steps_eq_of_leads (h : Leads p as c) (has : as.Pairwise (fun a b => a.index ≤ b.index)) :
    steps Axis.all p c = as := by
  induction as using List.reverseRecOn generalizing c with
  | nil =>
    obtain rfl : p = c := h.2
    rw [steps_self]
  | append_singleton as b ih =>
    obtain ⟨e, he, hroom, rfl⟩ := leads_concat.mp h
    obtain ⟨hfirst, _, hlast⟩ := List.pairwise_append.mp has
    have hkept : as.filter (·.index ≤ b.index) = as :=
      List.filter_eq_self.mpr fun i hi => by simpa using hlast i hi b (List.mem_singleton_self b)
    rw [steps_all_advance (le_of_leads he) hroom, ih he hfirst, hkept]

/-- The way from a later start has no step that the way from an earlier one has
not. -/
theorem steps_sublist_of_le (hpq : p = q ∨ p < q) (hqc : q = c ∨ q < c) :
    (steps Axis.all q c).Sublist (steps Axis.all p c) := by
  obtain ⟨as, has⟩ : ∃ as, Leads q as c := ⟨_, leads_steps (List.nil_append _) hqc (by simp)⟩
  clear hqc
  -- both ways take the same turns along any course to `c`
  induction as using List.reverseRecOn generalizing c with
  | nil =>
    obtain rfl : q = c := has.2
    rw [steps_self]
    exact List.nil_sublist _
  | append_singleton as b ih =>
    obtain ⟨e, he, hroom, rfl⟩ := leads_concat.mp has
    have hqe := le_of_leads he
    have hpe : p = e ∨ p < e := by
      rcases hpq with rfl | hpq
      · exact hqe
      · rcases hqe with rfl | hqe
        · exact .inr hpq
        · exact .inr (KeyOrder.trans hpq hqe)
    rw [steps_all_advance hqe hroom, steps_all_advance hpe hroom]
    exact ((ih he).filter _).append_right [b]

/-- A way through a coordinate between is not shorter than the way past it. -/
theorem length_steps_le (hpq : p = q ∨ p < q) (hqc : q = c ∨ q < c) :
    (steps Axis.all p c).length ≤ (steps Axis.all p q).length + (steps Axis.all q c).length := by
  have hfirst : Leads p (steps Axis.all p q) q := leads_steps (List.nil_append _) hpq (by simp)
  have hthen : Leads q (steps Axis.all q c) c := leads_steps (List.nil_append _) hqc (by simp)
  rw [← List.length_append]
  exact (steps_sublist_of_leads (hfirst.append hthen)).length_le

end Weave

end Ninefold
