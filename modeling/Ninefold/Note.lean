import Ninefold.Coordinate
import Ninefold.Text.Quoted

/-!
# Notes

What the library remarks while it works, besides its answer: warnings about
input it had to bend, and details for whoever looks into a fault. A note is a
value; who shows it, and where, is decided outside.
-/

namespace Ninefold

/-- How much a note matters. -/
inductive Severity where
  | warning
  | detail
deriving DecidableEq

/-- One remark. -/
inductive Note where
  /-- A part of an address that is no number an axis can take. -/
  | malformedPart (axis : Axis) (part : Text)
  /-- A number outside the addressable range, and the one used for it. -/
  | clamped (axis : Axis) (value used : Nat)
  /-- A whole text was cut into scrolls. -/
  | partitioned (bytes scrolls : Nat) (cursor : Coordinate)
  /-- A file of a directory goes to a coordinate. -/
  | slurping (file : String) (place : Coordinate)
  /-- A document was written to a file. -/
  | saved (bytes : Nat) (label file : String)
deriving DecidableEq

namespace Note

/-- Warnings are for the user; the rest is detail. -/
def severity : Note → Severity
  | .malformedPart .. => .warning
  | .clamped .. => .warning
  | .partitioned .. => .detail
  | .slurping .. => .detail
  | .saved .. => .detail

/-- The part of the program that a note is filed under. -/
def origin : Note → String
  | .malformedPart .. => "phext::coordinate"
  | .clamped .. => "phext::coordinate"
  | .partitioned .. => "phext::partition"
  | .slurping .. => "phext::commands::slurp"
  | .saved .. => "phext::store::fs"

/-- The wording of a note. -/
def text : Note → String
  | .malformedPart a part =>
    "invalid " ++ a.name ++ " component " ++ Text.asString part.quoted ++ ", defaulting to 1"
  | .clamped a value used =>
    a.name ++ " " ++ toString value ++ " out of range, using " ++ toString used
  | .partitioned bytes scrolls cursor =>
    "partitioned " ++ toString bytes ++ " bytes into " ++ toString scrolls
      ++ " scrolls, cursor at " ++ cursor.address
  | .slurping file place => "slurping " ++ file ++ " into " ++ place.address
  | .saved bytes label file =>
    "saved " ++ toString bytes ++ " bytes for '" ++ label ++ "' to " ++ file

end Note

end Ninefold
