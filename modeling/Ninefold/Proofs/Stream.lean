import Mathlib.Data.List.Basic
import Mathlib.Data.List.Induction
import Mathlib.Data.List.TakeWhile
import Ninefold.Weave
import Ninefold.Proofs.Coordinate

/-!
# The woven text as one stream

A text is woven axis by axis, but it can be written down cell by cell: each
cell after the steps that lead to it from the cell before, the first from the
origin. From one coordinate to a later one these steps go up on the coarsest
axis on which the two differ, and then, on each finer axis, from the first
position.

The proof keeps one text fixed while the layers are joined: the stream of a
layer for the axes that are still to be joined. In the end no axis is left, and
the stream is the text of the one cell.
-/

namespace Ninefold

namespace Coordinate

theorem get_resetFrom (c : Coordinate) (a b : Axis) :
    (c.resetFrom a).get b = if b.index < a.index then c.get b else 1 := by
  rw [resetFrom, get_restart]
  by_cases hlt : b.index < a.index
  · rw [if_pos hlt, if_pos hlt]
  · rw [if_neg hlt, if_neg hlt, Position.number_first, ite_self]

/-- Two coordinates lie in one run on an axis if they agree on every coarser
one. -/
theorem resetFrom_eq_iff {c d : Coordinate} {a : Axis} :
    c.resetFrom a = d.resetFrom a ↔ ∀ b : Axis, b.index < a.index → c.get b = d.get b := by
  constructor
  · intro h b hb
    have hget := congrArg (fun e => e.get b) h
    simpa [get_resetFrom, hb] using hget
  · intro h
    refine ext_get fun b => ?_
    rw [get_resetFrom, get_resetFrom]
    by_cases hb : b.index < a.index
    · rw [if_pos hb, if_pos hb, h b hb]
    · rw [if_neg hb, if_neg hb]

@[simp] theorem resetFrom_origin (a : Axis) : origin.resetFrom a = origin := by
  refine ext_get fun b => ?_
  rw [get_resetFrom, get_origin, ite_self]

@[simp] theorem resetFrom_library (c : Coordinate) : c.resetFrom .library = origin := by
  refine ext_get fun b => ?_
  rw [get_resetFrom, get_origin]
  exact if_neg (Nat.not_lt_zero _)

end Coordinate

namespace Weave

open Coordinate

/-! ## The steps from one cell to the next -/

/-- The steps to a coordinate from the first position on each axis of a
list. -/
def climb (axes : List Axis) (c : Coordinate) : List Axis :=
  axes.flatMap fun a => List.replicate (c.get a - 1) a

/-- The steps on the axes of a list, coarsest first, that lead from one
coordinate to a later one. -/
def steps : List Axis → Coordinate → Coordinate → List Axis
  | [], _, _ => []
  | a :: finer, p, c =>
    if p.get a = c.get a then steps finer p c
    else List.replicate (c.get a - p.get a) a ++ climb finer c

/-- The text of a layer for the axes of a list: each cell after the delimiters
of the steps from the one before it, the first from `p`. -/
def stream (d : Delimiters) (axes : List Axis) : Coordinate → Layer → Text
  | _, [] => []
  | p, (c, t) :: rest => (steps axes p c).map d.char ++ t ++ stream d axes c rest

theorem climb_concat (axes : List Axis) (a : Axis) (c : Coordinate) :
    climb (axes ++ [a]) c = climb axes c ++ List.replicate (c.get a - 1) a := by
  simp [climb]

/-- The steps on one axis more come last. -/
theorem steps_concat (axes : List Axis) (a : Axis) (p c : Coordinate) :
    steps (axes ++ [a]) p c =
      if ∀ b ∈ axes, p.get b = c.get b then List.replicate (c.get a - p.get a) a
      else steps axes p c ++ List.replicate (c.get a - 1) a := by
  induction axes with
  | nil =>
    by_cases h : p.get a = c.get a
    · simp [steps, h]
    · simp [steps, climb, h]
  | cons b finer ih =>
    by_cases h : p.get b = c.get b
    · simp [steps, h, ih]
    · simp [steps, h, climb_concat]

/-- Only the positions on the axes of the list count. -/
theorem steps_congr {axes : List Axis} {p p' c c' : Coordinate}
    (hp : ∀ b ∈ axes, p.get b = p'.get b) (hc : ∀ b ∈ axes, c.get b = c'.get b) :
    steps axes p c = steps axes p' c' := by
  induction axes with
  | nil => rfl
  | cons a finer ih =>
    have hclimb : climb finer c = climb finer c' :=
      List.flatMap_congr fun b hb => by rw [hc b (by simp [hb])]
    rw [steps, steps, hp a (by simp), hc a (by simp), hclimb,
      ih (fun b hb => hp b (by simp [hb])) (fun b hb => hc b (by simp [hb]))]

theorem steps_self (axes : List Axis) (p : Coordinate) : steps axes p p = [] := by
  induction axes with
  | nil => rfl
  | cons a finer ih => rw [steps, if_pos rfl, ih]

/-- Up one axis and then on the finer ones from the first position: the climb
goes on from where the row of steps leads. -/
theorem leads_up {coarse finer : List Axis} {a : Axis} (hall : coarse ++ a :: finer = Axis.all)
    {p c : Coordinate} (hle : p.get a ≤ c.get a)
    (hfirst : p.get a = c.get a → ∀ b ∈ finer, p.get b = 1)
    (hsame : ∀ b ∈ coarse, p.get b = c.get b)
    (hclimb : ∀ q : Coordinate, (∀ b ∈ finer, q.get b = 1) →
      (∀ b ∈ coarse ++ [a], q.get b = c.get b) → Leads q (climb finer c) c) :
    Leads p (List.replicate (c.get a - p.get a) a ++ climb finer c) c := by
  have hbefore := Axis.mem_before_iff hall
  have hafter := Axis.mem_after_iff hall
  -- where the row of steps on `a` leads
  let q := c.restart a (c.position a)
  have hq : ∀ b, q.get b = if b.index < a.index then c.get b else if b = a then c.get a else 1 :=
    fun b => get_restart c a b (c.position a)
  have hfine : ∀ b : Axis, a.index < b.index → q.get b = 1 := by
    intro b hb
    rw [hq, if_neg (by omega), if_neg (fun he => by subst he; omega)]
  have hup : Leads p (List.replicate (c.get a - p.get a) a) q := by
    refine leads_replicate _ ?_ (fun b hb => ?_) hfine (fun h0 b hb => ?_)
    · rw [hq, if_neg (Nat.lt_irrefl _), if_pos rfl]
      omega
    · rw [hq, if_pos hb, hsame b ((hbefore b).mpr hb)]
    · exact hfirst (by omega) b ((hafter b).mpr hb)
  refine hup.append (hclimb q (fun b hb => hfine b ((hafter b).mp hb)) (fun b hb => ?_))
  rw [hq]
  rcases List.mem_append.mp hb with hb | hb
  · rw [if_pos ((hbefore b).mp hb)]
  · rw [List.mem_singleton.mp hb, if_neg (Nat.lt_irrefl _), if_pos rfl]

/-- From the first position on each axis of a list the climb leads up to the
coordinate. -/
theorem leads_climb {coarse axes : List Axis} (hall : coarse ++ axes = Axis.all)
    {p c : Coordinate} (hfirst : ∀ b ∈ axes, p.get b = 1)
    (hsame : ∀ b ∈ coarse, p.get b = c.get b) : Leads p (climb axes c) c := by
  induction axes generalizing coarse p with
  | nil =>
    rw [List.append_nil] at hall
    exact ⟨trivial, ext_get fun b => hsame b (hall ▸ Axis.mem_all b)⟩
  | cons a finer ih =>
    have hone : p.get a = 1 := hfirst a (by simp)
    have hrow : climb (a :: finer) c =
        List.replicate (c.get a - p.get a) a ++ climb finer c := by rw [hone]; rfl
    rw [hrow]
    refine leads_up hall (hone ▸ c.one_le_get a) (fun _ b hb => hfirst b (by simp [hb])) hsame ?_
    have hon : (coarse ++ [a]) ++ finer = Axis.all := by simpa using hall
    exact fun q hq hqs => ih hon hq hqs

/-- **The steps lead there.** From one coordinate to itself or to a later one
the steps rise to it. -/
theorem leads_steps {coarse axes : List Axis} (hall : coarse ++ axes = Axis.all)
    {p c : Coordinate} (hle : p = c ∨ p < c) (hsame : ∀ b ∈ coarse, p.get b = c.get b) :
    Leads p (steps axes p c) c := by
  induction axes generalizing coarse with
  | nil =>
    rw [List.append_nil] at hall
    exact ⟨trivial, ext_get fun b => hsame b (hall ▸ Axis.mem_all b)⟩
  | cons a finer ih =>
    rw [steps]
    by_cases heq : p.get a = c.get a
    · rw [if_pos heq]
      have hon : (coarse ++ [a]) ++ finer = Axis.all := by simpa using hall
      refine ih hon (fun b hb => ?_)
      rcases List.mem_append.mp hb with hb | hb
      · exact hsame b hb
      · exact List.mem_singleton.mp hb ▸ heq
    · -- `a` is the coarsest axis on which the two differ
      have hlt : p.get a < c.get a := by
        rcases hle with rfl | hlt
        · exact absurd rfl heq
        · obtain ⟨k, hk, hkc⟩ := lt_iff_exists.mp hlt
          rcases Nat.lt_trichotomy k.index a.index with h | h | h
          · have := hsame k ((Axis.mem_before_iff hall k).mpr h)
            omega
          · exact Axis.index_injective h ▸ hkc
          · exact absurd (hk a h) heq
      rw [if_neg heq]
      refine leads_up hall (Nat.le_of_lt hlt) (fun he => absurd he heq) hsame ?_
      have hon : (coarse ++ [a]) ++ finer = Axis.all := by simpa using hall
      exact fun q hq hqs => leads_climb hon hq hqs

/-! ## Joining a layer -/

/-- Whether a cell lies in the run of a coordinate on an axis. -/
def inRun (a : Axis) (c : Coordinate) (cell : Coordinate × Text) : Bool :=
  cell.1.resetFrom a = c.resetFrom a

/-- A cell in front of a run joins it or is a run of its own. -/
theorem gather_cons_of_eq {a : Axis} {layer run : Layer} {first : Coordinate}
    {runs : List (Coordinate × Layer)} (h : gather a layer = (first, run) :: runs)
    (cell : Coordinate × Text) :
    gather a (cell :: layer) =
      if first = cell.1.resetFrom a then (first, cell :: run) :: runs
      else (cell.1.resetFrom a, [cell]) :: (first, run) :: runs := by
  unfold gather at h ⊢
  rw [List.foldr_cons, h]

theorem gather_cons (a : Axis) (cell : Coordinate × Text) (layer : Layer) :
    gather a (cell :: layer) =
      (cell.1.resetFrom a, cell :: layer.takeWhile (inRun a cell.1)) ::
        gather a (layer.dropWhile (inRun a cell.1)) := by
  induction layer generalizing cell with
  | nil => rfl
  | cons next rest ih =>
    rw [gather_cons_of_eq (ih next) cell]
    by_cases hrun : next.1.resetFrom a = cell.1.resetFrom a
    · have hin : inRun a next.1 = inRun a cell.1 := funext fun e => by simp only [inRun, hrun]
      have hnext : inRun a cell.1 next = true := by simp [inRun, hrun]
      rw [List.takeWhile_cons_of_pos hnext, List.dropWhile_cons_of_pos hnext, hin]
      simp only [hrun, if_true]
    · have hnext : ¬ inRun a cell.1 next = true := by simp [inRun, hrun]
      rw [List.takeWhile_cons_of_neg hnext, List.dropWhile_cons_of_neg hnext, ih next]
      simp only [if_neg hrun]

theorem join_cons (d : Delimiters) (a : Axis) (cell : Coordinate × Text) (layer : Layer) :
    join d a (cell :: layer) =
      (cell.1.resetFrom a,
        fill (d.char a) a 1 (cell :: layer.takeWhile (inRun a cell.1))) ::
        join d a (layer.dropWhile (inRun a cell.1)) := by
  rw [join, gather_cons]
  rfl

/-- Joining the runs on an axis leaves the stream as it is: what the run of `p`
still holds, and the stream of the joined rest. -/
theorem stream_concat (d : Delimiters) {axes : List Axis} {a : Axis}
    (haxes : ∀ b, b ∈ axes ↔ b.index < a.index) (p : Coordinate) (layer : Layer) :
    stream d (axes ++ [a]) p layer =
      fill (d.char a) a (p.get a) (layer.takeWhile (inRun a p)) ++
        stream d axes (p.resetFrom a) (join d a (layer.dropWhile (inRun a p))) := by
  induction layer generalizing p with
  | nil => rfl
  | cons cell rest ih =>
    obtain ⟨c, t⟩ := cell
    have hagree : (∀ b ∈ axes, p.get b = c.get b) ↔ c.resetFrom a = p.resetFrom a := by
      simp only [Coordinate.resetFrom_eq_iff, haxes, eq_comm]
    rw [stream, ih c, steps_concat]
    by_cases hrun : c.resetFrom a = p.resetFrom a
    · -- the cell goes on with the run
      have hin : inRun a c = inRun a p := funext fun e => by simp only [inRun, hrun]
      have hhere : inRun a p (c, t) = true := by simp [inRun, hrun]
      rw [if_pos (hagree.mpr hrun), hin, hrun, List.takeWhile_cons_of_pos hhere,
        List.dropWhile_cons_of_pos hhere, fill_cons, List.map_replicate]
      simp only [List.append_assoc]
    · -- the cell is the first of a new run
      have hhere : ¬ inRun a p (c, t) = true := by simp [inRun, hrun]
      have hsteps : steps axes (p.resetFrom a) (c.resetFrom a) = steps axes p c := by
        refine steps_congr (fun b hb => ?_) (fun b hb => ?_)
        · rw [Coordinate.get_resetFrom, if_pos ((haxes b).mp hb)]
        · rw [Coordinate.get_resetFrom, if_pos ((haxes b).mp hb)]
      rw [if_neg (mt hagree.mp hrun), List.takeWhile_cons_of_neg hhere,
        List.dropWhile_cons_of_neg hhere, fill_nil, join_cons, stream, hsteps, fill_cons,
        List.map_append, List.map_replicate]
      simp only [List.append_assoc, List.nil_append]

/-- From a coordinate at the first position of a run the run needs no mention
of its own. -/
theorem stream_join (d : Delimiters) {axes : List Axis} {a : Axis}
    (haxes : ∀ b, b ∈ axes ↔ b.index < a.index) (layer : Layer) :
    stream d (axes ++ [a]) .origin layer = stream d axes .origin (join d a layer) := by
  rw [stream_concat d haxes, Coordinate.resetFrom_origin, Coordinate.get_origin]
  cases layer with
  | nil => rfl
  | cons cell rest =>
    by_cases hrun : inRun a .origin cell = true
    · -- no step is left to the run of the origin
      have hplace : cell.1.resetFrom a = .origin := by simpa [inRun] using hrun
      have hin : inRun a cell.1 = inRun a .origin := by
        funext e
        simp only [inRun, hplace, Coordinate.resetFrom_origin]
      rw [List.takeWhile_cons_of_pos hrun, List.dropWhile_cons_of_pos hrun, join_cons, hplace,
        hin, stream, steps_self]
      rfl
    · rw [List.takeWhile_cons_of_neg hrun, List.dropWhile_cons_of_neg hrun]
      rfl

theorem stream_foldr_join (d : Delimiters) (axes rest : List Axis) (h : axes ++ rest = Axis.all)
    (layer : Layer) :
    stream d axes .origin layer = stream d [] .origin (axes.foldr (join d) layer) := by
  induction axes using List.reverseRecOn generalizing rest layer with
  | nil => rfl
  | append_singleton axes a ih =>
    have hall : axes ++ a :: rest = Axis.all := by simpa using h
    rw [stream_join d (Axis.mem_before_iff hall), ih (a :: rest) hall, List.foldr_append]
    rfl

/-- The library has one run. -/
theorem join_library (d : Delimiters) (layer : Layer) :
    join d .library layer = [] ∨ ∃ c t, join d .library layer = [(c, t)] := by
  cases layer with
  | nil => exact .inl rfl
  | cons cell rest =>
    have hin : rest.dropWhile (inRun .library cell.1) = [] := by
      rw [List.dropWhile_eq_nil_iff]
      intro e _
      simp [inRun]
    exact .inr ⟨_, _, by rw [join_cons, hin]; rfl⟩

end Weave

open Weave in
/-- **A woven text is a stream.** It is that of its cells in order, each after
the delimiters of the steps that lead to it. -/
theorem weave_eq_stream (d : Delimiters) (cells : Cells) :
    weave d cells = stream d Axis.all .origin cells.entries := by
  have hone : Axis.all.foldr (join d) cells.entries = [] ∨
      ∃ c t, Axis.all.foldr (join d) cells.entries = [(c, t)] := by
    rw [show Axis.all = .library :: Axis.all.tail from rfl, List.foldr_cons]
    exact join_library d _
  rw [stream_foldr_join d Axis.all [] (List.append_nil _), weave]
  -- no axis is left to step on, so the stream is the text of the one cell
  rcases hone with hnil | ⟨c, t, hcell⟩
  · rw [hnil]
    rfl
  · rw [hcell]
    simp [stream, steps]

end Ninefold
