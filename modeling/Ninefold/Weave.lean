import Ninefold.Delimiters
import Ninefold.Scroll

/-!
# Weaving cells into a text

The way back from cells to a text, from the finest axis to the coarsest. A
layer is a list of cells in ascending order. On each axis the cells of a layer
that differ on that axis alone are joined, with one delimiter for each step
from a position to the next, and make one cell of the next layer. The last
layer has one cell, at the origin.
-/

namespace Ninefold

namespace Weave

/-- Cells in ascending order of their coordinates. -/
abbrev Layer := List (Coordinate × Text)

/-- The runs of cells that agree on every axis coarser than `a`, each under the
first coordinate it can hold. -/
def gather (a : Axis) (layer : Layer) : List (Coordinate × Layer) :=
  layer.foldr (fun cell runs =>
    let parent := cell.1.resetFrom a
    match runs with
    | [] => [(parent, [cell])]
    | (first, run) :: rest =>
      if first = parent then (first, cell :: run) :: rest else (parent, [cell]) :: runs) []

/-- The texts of a run, each after as many delimiters as there are steps to its
position on `a` from the one before it, the first from `reached`. -/
def fill (delimiter : Char) (a : Axis) (reached : Nat) (run : Layer) : Text :=
  ((reached :: run.map (·.1.get a)).zip run).flatMap fun (before, c, t) =>
    List.replicate (c.get a - before) delimiter ++ t

/-- The layer above one, with the cells of each run on `a` joined. -/
def join (d : Delimiters) (a : Axis) (layer : Layer) : Layer :=
  (gather a layer).map fun (parent, run) => (parent, fill (d.char a) a 1 run)

@[simp] theorem fill_nil (delimiter : Char) (a : Axis) (reached : Nat) :
    fill delimiter a reached [] = [] := rfl

@[simp] theorem fill_cons (delimiter : Char) (a : Axis) (reached : Nat) (c : Coordinate)
    (t : Text) (run : Layer) :
    fill delimiter a reached ((c, t) :: run) =
      List.replicate (c.get a - reached) delimiter ++ t ++ fill delimiter a (c.get a) run := by
  simp [fill]

end Weave

/-- The text of a table of cells. -/
def weave (d : Delimiters) (cells : Cells) : Text :=
  match Axis.all.foldr (Weave.join d) cells.entries with
  | [] => []
  | (_, t) :: _ => t

end Ninefold
