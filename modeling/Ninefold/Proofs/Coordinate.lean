import Ninefold.Coordinate

/-!
# The order of coordinates, and steps in it

One coordinate lies before another when it is the smaller on the coarsest axis
on which the two differ. A step of `advance` goes forward in this order unless
its axis is full, and it makes every step on a finer axis before it good.

`Rising` says of a course of steps that none of them meets a full axis. It is
what keeps the coordinates of a text apart: along a rising course no coordinate
comes twice.
-/

namespace Ninefold

namespace Axis

theorem exists_index {i : Nat} (h : i < 9) : ∃ a : Axis, a.index = i := by
  have hall : ∀ i : Fin 9, (all[i]).index = i := by decide
  exact ⟨all[i], hall ⟨i, h⟩⟩

/-- The axes are listed by their index. -/
theorem pairwise_all : all.Pairwise (fun a b => a.index < b.index) := by decide

/-- Before an axis in the list stand the coarser ones. -/
theorem mem_before_iff {coarse fine : List Axis} {a : Axis} (h : coarse ++ a :: fine = all)
    (b : Axis) : b ∈ coarse ↔ b.index < a.index := by
  obtain ⟨_, hfine, hcoarse⟩ := List.pairwise_append.mp (h ▸ pairwise_all)
  constructor
  · exact fun hb => hcoarse b hb a (by simp)
  · intro hlt
    have hb : b ∈ coarse ++ a :: fine := h ▸ mem_all b
    rcases List.mem_append.mp hb with hb | hb
    · exact hb
    · rcases List.mem_cons.mp hb with rfl | hb
      · omega
      · have := (List.pairwise_cons.mp hfine).1 b hb
        omega

/-- After an axis in the list stand the finer ones. -/
theorem mem_after_iff {coarse fine : List Axis} {a : Axis} (h : coarse ++ a :: fine = all)
    (b : Axis) : b ∈ fine ↔ a.index < b.index := by
  obtain ⟨_, hfine, hcoarse⟩ := List.pairwise_append.mp (h ▸ pairwise_all)
  constructor
  · exact fun hb => (List.pairwise_cons.mp hfine).1 b hb
  · intro hlt
    have hb : b ∈ coarse ++ a :: fine := h ▸ mem_all b
    rcases List.mem_append.mp hb with hb | hb
    · have := hcoarse b hb a (by simp)
      omega
    · rcases List.mem_cons.mp hb with rfl | hb
      · omega
      · exact hb

end Axis

namespace Coordinate

/-! ## The order, axis by axis -/

theorem getElem_numbers (c : Coordinate) {i : Nat} (h : i < c.numbers.length) {a : Axis}
    (ha : a.index = i) : c.numbers[i] = c.get a := by
  subst ha
  have hall : Axis.all[a.index]? = some a := Axis.getElem?_all_index a
  rw [← Option.some_inj, ← List.getElem?_eq_getElem, numbers, List.getElem?_map, hall]
  rfl

@[simp] theorem length_numbers (c : Coordinate) : c.numbers.length = 9 := by simp [numbers]

/-- The coarsest axis on which two coordinates differ decides which lies first. -/
theorem lt_iff_exists {c d : Coordinate} :
    c < d ↔ ∃ a, (∀ b : Axis, b.index < a.index → c.get b = d.get b) ∧ c.get a < d.get a := by
  rw [lt_iff, List.lt_iff_exists]
  constructor
  · -- both have nine numbers, so neither list only begins the other
    rintro (⟨_, hlen⟩ | ⟨i, hc, hd, hbefore, hlt⟩)
    · simp at hlen
    · obtain ⟨a, rfl⟩ := Axis.exists_index (i := i) (by simpa using hc)
      refine ⟨a, fun b hb => ?_, ?_⟩
      · have := hbefore b.index hb
        rwa [getElem_numbers c _ rfl, getElem_numbers d _ rfl] at this
      · rwa [getElem_numbers c _ rfl, getElem_numbers d _ rfl] at hlt
  · rintro ⟨a, hbefore, hlt⟩
    have hc : a.index < c.numbers.length := by simpa using Axis.index_lt a
    have hd : a.index < d.numbers.length := by simpa using Axis.index_lt a
    refine .inr ⟨a.index, hc, hd, fun j hj => ?_, ?_⟩
    · obtain ⟨b, rfl⟩ := Axis.exists_index (Nat.lt_trans hj (Axis.index_lt a))
      rw [getElem_numbers c _ rfl, getElem_numbers d _ rfl]
      exact hbefore b hj
    · rwa [getElem_numbers c hc rfl, getElem_numbers d hd rfl]

/-! ## One step -/

theorem get_advance (c : Coordinate) (a b : Axis) :
    (c.advance a).get b =
      if b.index < a.index then c.get b
      else if b = a then min (c.get a + 1) Position.limit else 1 := by
  rw [advance, get_restart, Position.number_after]
  rfl

/-- A step makes a step on a finer axis before it good. -/
theorem advance_advance {a b : Axis} (h : a.index < b.index) (c : Coordinate) :
    (c.advance b).advance a = c.advance a := by
  refine ext_get fun i => ?_
  rw [get_advance (c.advance b) a i, get_advance c a i, get_advance c b a, if_pos h]
  by_cases hi : i.index < a.index
  · rw [if_pos hi, if_pos hi, get_advance, if_pos (by omega)]
  · rw [if_neg hi, if_neg hi]

/-- A step goes forward, unless its axis is full. -/
theorem lt_advance {c : Coordinate} {a : Axis} (h : c.get a < Position.limit) :
    c < c.advance a := by
  refine lt_iff_exists.mpr ⟨a, fun b hb => ?_, ?_⟩
  · rw [get_advance, if_pos hb]
  · rw [get_advance, if_neg (Nat.lt_irrefl _), if_pos rfl]
    omega

/-- A step adds one to a number at most. -/
theorem get_advance_le (c : Coordinate) (a b : Axis) : (c.advance a).get b ≤ c.get b + 1 := by
  rw [get_advance]
  by_cases hlt : b.index < a.index
  · rw [if_pos hlt]
    omega
  · rw [if_neg hlt]
    by_cases hb : b = a
    · subst hb
      rw [if_pos rfl]
      omega
    · rw [if_neg hb]
      omega

/-! ## A course of steps -/

/-- No step of a course meets a full axis. -/
def Rising : Coordinate → List Axis → Prop
  | _, [] => True
  | c, a :: rest => c.get a < Position.limit ∧ Rising (c.advance a) rest

theorem rising_append {c : Coordinate} {as bs : List Axis} :
    Rising c (as ++ bs) ↔ Rising c as ∧ Rising (as.foldl advance c) bs := by
  induction as generalizing c with
  | nil => simp [Rising]
  | cons a rest ih => simp [Rising, ih, and_assoc]

/-- A course is rising if it is too short to fill an axis. -/
theorem rising_of_length {c : Coordinate} {as : List Axis}
    (h : ∀ b, c.get b + as.length ≤ Position.limit) : Rising c as := by
  induction as generalizing c with
  | nil => trivial
  | cons a rest ih =>
    simp only [List.length_cons] at h
    refine ⟨by have := h a; omega, ih fun b => ?_⟩
    have := h b
    have := get_advance_le c a b
    omega

/-- A course that rises from one coordinate to another. -/
def Leads (p : Coordinate) (as : List Axis) (c : Coordinate) : Prop :=
  Rising p as ∧ as.foldl advance p = c

theorem Leads.append {p q c : Coordinate} {as bs : List Axis} (h : Leads p as q)
    (h' : Leads q bs c) : Leads p (as ++ bs) c := by
  obtain ⟨has, rfl⟩ := h
  exact ⟨rising_append.mpr ⟨has, h'.1⟩, by rw [List.foldl_append]; exact h'.2⟩

theorem get_foldl_replicate (p : Coordinate) (n : Nat) (a b : Axis) :
    ((List.replicate n a).foldl advance p).get b =
      if n = 0 ∨ b.index < a.index then p.get b
      else if b = a then min (p.get a + n) Position.limit else 1 := by
  induction n generalizing p with
  | zero => simp
  | succ n ih =>
    -- the first step sets every axis right, and the others only add to `a`
    rw [List.replicate_succ, List.foldl_cons, ih, get_advance, get_advance]
    have hlimit := p.get_le_limit a
    by_cases hlt : b.index < a.index
    · simp [hlt]
    · by_cases hb : b = a
      · subst hb
        by_cases hn : n = 0
        · simp [hn]
        · simp [hn]
          omega
      · simp [hlt, hb]

/-- A row of steps on one axis leads up that axis, if there is room. -/
theorem leads_replicate {p c : Coordinate} {a : Axis} (n : Nat) (hn : c.get a = p.get a + n)
    (hsame : ∀ b : Axis, b.index < a.index → c.get b = p.get b)
    (hfirst : ∀ b : Axis, a.index < b.index → c.get b = 1)
    (hstart : n = 0 → ∀ b : Axis, a.index < b.index → p.get b = 1) :
    Leads p (List.replicate n a) c := by
  have hlimit := c.get_le_limit a
  constructor
  · clear hsame hfirst hstart
    induction n generalizing p with
    | zero => trivial
    | succ n ih =>
      refine ⟨by omega, ih ?_⟩
      rw [get_advance, if_neg (Nat.lt_irrefl _), if_pos rfl]
      omega
  · refine ext_get fun b => ?_
    rw [get_foldl_replicate]
    rcases Nat.lt_trichotomy b.index a.index with hlt | heq | hgt
    · rw [if_pos (.inr hlt), hsame b hlt]
    · have hb := Axis.index_injective heq
      subst hb
      by_cases h0 : n = 0
      · simp [h0, hn]
      · simp [h0]
        omega
    · have hb : b ≠ a := by
        intro hb
        subst hb
        omega
      by_cases h0 : n = 0
      · simp [h0, hfirst b hgt, hstart h0 b hgt]
      · simp [h0, hb, hfirst b hgt]
        omega

/-- Along a rising course every coordinate lies before all later ones. -/
theorem Rising.pairwise {c : Coordinate} {as : List Axis} (h : Rising c as) :
    (as.scanl advance c).Pairwise (· < ·) := by
  induction as generalizing c with
  | nil => simp
  | cons a rest ih =>
    have hrest := ih h.2
    have hstep : c < c.advance a := lt_advance h.1
    rw [List.scanl_cons, List.pairwise_cons]
    refine ⟨fun d hd => ?_, hrest⟩
    -- the first coordinate of the rest is the one after the step
    cases rest with
    | nil =>
      rw [List.scanl_nil, List.mem_singleton] at hd
      exact hd ▸ hstep
    | cons b rest =>
      rw [List.scanl_cons] at hd hrest
      rcases List.mem_cons.mp hd with rfl | hd
      · exact hstep
      · exact KeyOrder.trans hstep ((List.pairwise_cons.mp hrest).1 d hd)

end Coordinate

end Ninefold
