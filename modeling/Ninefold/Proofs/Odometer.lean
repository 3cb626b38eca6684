import Mathlib
import Ninefold.Proofs.Standing

/-!
# The odometer

The successor of a coordinate is one step on the finest axis that is not full.
Among the coordinates that an address can name it is the one right behind, and
it is missing behind the last of them alone. So from any of them on, one
successor after another leads past all that are left, in their order, and there
are as many of these as steps can be taken, with the start counted in.
-/

namespace Ninefold.Coordinate

variable {c d e : Coordinate} {a : Axis}

/-! ## One step -/

/-- The finest axis of a kind. -/
theorem find?_finest_eq_some_iff {P : Axis → Bool} :
    Axis.all.reverse.find? P = some a ↔ P a ∧ ∀ b : Axis, a.index < b.index → ¬ P b := by
  rw [List.find?_eq_some_iff_append]
  constructor
  · rintro ⟨ha, finer, coarser, hall, hfiner⟩
    have hsplit : coarser.reverse ++ a :: finer.reverse = Axis.all := by
      rw [← List.reverse_reverse Axis.all, hall]
      simp
    refine ⟨ha, fun b hb => ?_⟩
    have hmem := (Axis.mem_after_iff hsplit b).mpr hb
    simpa using hfiner b (List.mem_reverse.mp hmem)
  · rintro ⟨ha, hfiner⟩
    obtain ⟨coarse, fine, hsplit⟩ := List.append_of_mem (Axis.mem_all a)
    refine ⟨ha, fine.reverse, coarse.reverse, by rw [hsplit]; simp, fun b hb => ?_⟩
    simpa using hfiner b ((Axis.mem_after_iff hsplit.symm b).mp (List.mem_reverse.mp hb))

/-- The successor is a step on the finest axis that has room for one. -/
theorem successor_eq_some_iff :
    c.successor = some e ↔ ∃ a, c.get a < Position.lastNamed ∧
      (∀ b : Axis, a.index < b.index → Position.lastNamed ≤ c.get b) ∧ c.next a = e := by
  simp only [successor, Option.map_eq_some_iff, find?_finest_eq_some_iff, decide_eq_true_eq,
    Nat.not_lt, and_assoc]

theorem successor_eq_none_iff : c.successor = none ↔ ∀ a, Position.lastNamed ≤ c.get a := by
  simp [successor]

theorem get_next (c : Coordinate) (a b : Axis) :
    (c.next a).get b = if b.index < a.index then c.get b
      else if b = a then min (c.get a + 1) (max (c.get a) Position.lastNamed) else 1 := by
  have hlast : Position.lastNamed = 999 := rfl
  have hlimit : Position.limit = 4294967295 := rfl
  rw [next, get_restart]
  split
  · rfl
  · split
    · split
      next hroom =>
        rw [Position.number_after]
        have hnumber : (c.position a).number = c.get a := rfl
        omega
      next =>
        have hnumber : (c.position a).number = c.get a := rfl
        omega
    · rfl

/-- A step on an axis with room goes forward. -/
theorem lt_next (h : c.get a < Position.lastNamed) : c < c.next a := by
  refine lt_iff_exists.mpr ⟨a, fun b hb => ?_, ?_⟩
  · rw [get_next, if_pos hb]
  · rw [get_next, if_neg (Nat.lt_irrefl _), if_pos rfl]
    omega

/-- No coordinate lies between one and a step up of its axis, if its positions on
the finer axes are not passed. -/
theorem not_lt_restart {p : Position} (hp : p.number ≤ c.get a + 1)
    (hfiner : ∀ b : Axis, a.index < b.index → d.get b ≤ c.get b) (hcd : c < d) :
    ¬ d < c.restart a p := by
  intro hdn
  obtain ⟨k, hk, hck⟩ := lt_iff_exists.mp hcd
  obtain ⟨j, hj, hjd⟩ := lt_iff_exists.mp hdn
  rw [get_restart] at hjd
  -- neither of the two axes that decide is finer than `a`
  have hka : k.index ≤ a.index := by
    by_contra hfine
    have := hfiner k (by omega)
    omega
  have hja : j.index ≤ a.index := by
    by_contra hfine
    rw [if_neg (by omega), if_neg (fun h : j = a => hfine (h ▸ Nat.le_refl _))] at hjd
    have := d.one_le_get j
    omega
  rcases Nat.lt_trichotomy k.index j.index with hkj | hkj | hkj
  · have hsame := hj k hkj
    rw [get_restart, if_pos (by omega)] at hsame
    omega
  · obtain rfl := Axis.index_injective hkj
    split at hjd
    · omega
    · split at hjd
      next heq => subst heq; omega
      next hne => exact hne (Axis.index_injective (by omega))
  · have hsame := hk j hkj
    rw [if_pos (by omega)] at hjd
    omega

/-- A step passes over no coordinate that an address can name, if the finer axes
are full. -/
theorem not_lt_next (hfull : ∀ b : Axis, a.index < b.index → Position.lastNamed ≤ c.get b)
    (hd : d.Addressable) (hcd : c < d) : ¬ d < c.next a := by
  refine not_lt_restart ?_ (fun b hb => (hd b).trans (hfull b hb)) hcd
  split
  · rw [Position.number_after]
    exact min_le_left _ _
  · exact Nat.le_succ _

/-! ## The coordinate right behind -/

theorem Addressable.successor (hc : c.Addressable) (h : c.successor = some e) :
    e.Addressable := by
  obtain ⟨a, -, -, rfl⟩ := successor_eq_some_iff.mp h
  exact hc.next a

theorem lt_successor (h : c.successor = some e) : c < e := by
  obtain ⟨a, hroom, -, rfl⟩ := successor_eq_some_iff.mp h
  exact lt_next hroom

/-- Between a coordinate and its successor there is none that an address can
name. -/
theorem not_lt_successor (h : c.successor = some e) (hd : d.Addressable) (hcd : c < d) :
    ¬ d < e := by
  obtain ⟨a, -, hfull, rfl⟩ := successor_eq_some_iff.mp h
  exact not_lt_next hfull hd hcd

/-- Behind a coordinate without a successor there is none either. -/
theorem not_lt_of_successor_none (h : c.successor = none) (hd : d.Addressable) : ¬ c < d := by
  intro hcd
  obtain ⟨k, -, hk⟩ := lt_iff_exists.mp hcd
  have := successor_eq_none_iff.mp h k
  have := hd k
  omega

/-! ## How many are left -/

/-- An address can name finitely many coordinates. -/
theorem finite_addressable : {d : Coordinate | d.Addressable}.Finite := by
  have haxes : Finite Axis :=
    .of_injective (fun a => (⟨a.index, a.index_lt⟩ : Fin 9)) fun a b h =>
      Axis.index_injective (Fin.mk.inj h)
  let digits : Coordinate → Axis → Fin (Position.lastNamed + 1) := fun d a =>
    ⟨min (d.get a) Position.lastNamed, by omega⟩
  refine Set.Finite.of_finite_image (Set.toFinite (digits '' _)) fun d hd e he h => ?_
  refine ext_get fun a => ?_
  have hdigit := Fin.mk.inj (congrFun h a)
  have hda : d.get a ≤ Position.lastNamed := hd a
  have hea : e.get a ≤ Position.lastNamed := he a
  omega

/-- The coordinates from one on that an address can name. -/
def ahead (c : Coordinate) : Set Coordinate := {d | d.Addressable ∧ ¬ d < c}

theorem finite_ahead (c : Coordinate) : c.ahead.Finite :=
  finite_addressable.subset fun _ hd => hd.1

/-- What is ahead of a coordinate is the coordinate and what is ahead of its
successor. -/
theorem ahead_of_successor (hc : c.Addressable) (h : c.successor = some e) :
    c.ahead = insert c e.ahead := by
  have hce := lt_successor h
  ext d
  constructor
  · rintro ⟨hd, hdc⟩
    by_cases hcd : c < d
    · exact .inr ⟨hd, not_lt_successor h hd hcd⟩
    · exact .inl (KeyOrder.connected hdc hcd)
  · rintro (rfl | ⟨hd, hde⟩)
    · exact ⟨hc, KeyOrder.irrefl d⟩
    · exact ⟨hd, fun hdc => hde (KeyOrder.trans hdc hce)⟩

theorem ahead_of_successor_none (hc : c.Addressable) (h : c.successor = none) :
    c.ahead = {c} := by
  ext d
  constructor
  · rintro ⟨hd, hdc⟩
    exact KeyOrder.connected hdc (not_lt_of_successor_none h hd)
  · rintro rfl
    exact ⟨hc, KeyOrder.irrefl d⟩

/-- The last coordinate that an address can name. -/
def last : Coordinate := ofPositions fun _ => .nearest Position.lastNamed

theorem get_last (a : Axis) : last.get a = Position.lastNamed := by
  rw [last, get_ofPositions]
  rfl

theorem addressable_last : last.Addressable := fun a => (get_last a).le

theorem successor_last : last.successor = none :=
  successor_eq_none_iff.mpr fun a => (get_last a).ge

/-- How many coordinates are left that an address can name. -/
noncomputable def room : Option Coordinate → Nat
  | none => 0
  | some c => c.ahead.ncard

theorem room_some (hc : c.Addressable) : room (some c) = room c.successor + 1 := by
  cases h : c.successor with
  | none => simp only [room, ahead_of_successor_none hc h, Set.ncard_singleton]
  | some e =>
    have hnew : c ∉ e.ahead := fun hmem => hmem.2 (lt_successor h)
    simp only [room, ahead_of_successor hc h, Set.ncard_insert_of_notMem hnew e.finite_ahead]

/-! ## One successor after another -/

/-- A number of coordinates, each the successor of the one before it, as far as
there is one. -/
def course : Nat → Option Coordinate → List Coordinate
  | 0, _ => []
  | _ + 1, none => []
  | n + 1, some c => c :: course n c.successor

@[simp] theorem course_none (n : Nat) : course n none = [] := by
  cases n <;> rfl

/-- A course is as long as asked for, if as many coordinates are left. -/
theorem length_course {n : Nat} {o : Option Coordinate} (ho : ∀ c ∈ o, c.Addressable)
    (hroom : n ≤ room o) : (course n o).length = n := by
  induction n generalizing o with
  | zero => rfl
  | succ n ih =>
    cases o with
    | none => exact absurd hroom (Nat.not_succ_le_zero n)
    | some c =>
      have hc := ho c rfl
      rw [room_some hc] at hroom
      rw [course, List.length_cons, ih (fun e he => hc.successor he) (by omega)]

/-- The coordinates of a course are the start and what successors lead to. -/
theorem iterate_successor_course {n i : Nat} {o : Option Coordinate}
    (h : i < (course n o).length) :
    (· >>= Coordinate.successor)^[i] o = some (course n o)[i] := by
  induction n generalizing o i with
  | zero => cases h
  | succ n ih =>
    cases o with
    | none => cases h
    | some c =>
      cases i with
      | zero => rfl
      | succ i =>
        rw [Function.iterate_succ_apply]
        exact ih (o := c.successor) (Nat.lt_of_succ_lt_succ h)

/-- Nothing on a course lies before its start. -/
theorem not_lt_of_mem_course {n : Nat} (h : d ∈ course n (some c)) : ¬ d < c := by
  induction n generalizing c with
  | zero => cases h
  | succ n ih =>
    rcases List.mem_cons.mp h with rfl | h
    · exact KeyOrder.irrefl d
    · cases hs : c.successor with
      | none =>
        rw [hs, course_none] at h
        cases h
      | some e =>
        rw [hs] at h
        exact fun hdc => ih h (KeyOrder.trans hdc (lt_successor hs))

/-- A course ascends. -/
theorem pairwise_course (n : Nat) (o : Option Coordinate) :
    (course n o).Pairwise (fun c d => c < d) := by
  induction n generalizing o with
  | zero => exact .nil
  | succ n ih =>
    cases o with
    | none => exact .nil
    | some c =>
      refine List.pairwise_cons.mpr ⟨fun d hd => ?_, ih c.successor⟩
      cases hs : c.successor with
      | none =>
        rw [hs, course_none] at hd
        cases hd
      | some e =>
        rw [hs] at hd
        have hde := not_lt_of_mem_course hd
        by_cases hed : e < d
        · exact KeyOrder.trans (lt_successor hs) hed
        · exact KeyOrder.connected hed hde ▸ lt_successor hs

end Ninefold.Coordinate
