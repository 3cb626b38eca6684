import Ninefold.Note

/-!
# Addresses

An address names a coordinate: three groups between slashes, each with three
numbers between points. Reading one never fails. What is missing or blank is
position one without a word; what is there and is no number from 1 to 999 is
position one with a warning; whatever stands beyond nine numbers is not looked
at.
-/

namespace Ninefold

namespace Address

/-- The number written by decimal digits alone. -/
def digitsValue? (t : Text) : Option Nat :=
  if !t.isEmpty && t.all Char.isDigit then some (Nat.ofDigitChars 10 t 0) else none

/-- The number written by decimal digits after an optional plus sign. -/
def number? : Text → Option Nat
  | '+' :: t => digitsValue? t
  | t => digitsValue? t

/-- The number a part of an address gives to its axis. -/
def partNumber? (part : Text) : Option Nat :=
  (number? part.trim).filter fun n => 1 ≤ n && n ≤ Position.lastNamed

/-- The part of an address that belongs to an axis, given the three groups. -/
def groupsPart? (z y x : Text) (a : Axis) : Option Text :=
  [z, y, x][a.index / 3]?.bind fun group => (group.splitOn '.')[a.index % 3]?

/-- The part of an address that belongs to an axis. -/
def part? (t : Text) (a : Axis) : Option Text :=
  (t.trim.splitOn '/')[a.index / 3]?.bind fun group => (group.splitOn '.')[a.index % 3]?

/-- The position of an axis whose part of an address is `part`. -/
def position (part : Option Text) : Position :=
  match part.bind partNumber? with
  | some n => .nearest n
  | none => .first

/-- A warning if a part is there, is not blank, and gives no number. -/
def note? (a : Axis) (part : Option Text) : Option Note :=
  part.bind fun p =>
    if Text.allBlank p || (partNumber? p).isSome then none else some (.malformedPart a p)

end Address

namespace Coordinate

/-- The coordinate that three groups of numbers name. -/
def ofGroups (z y x : String) : Coordinate :=
  ofPositions fun a => Address.position
    (Address.groupsPart? (Text.ofString z) (Text.ofString y) (Text.ofString x) a)

/-- The warnings that reading three groups gives rise to. -/
def groupsNotes (z y x : String) : List Note :=
  Axis.all.filterMap fun a => Address.note? a
    (Address.groupsPart? (Text.ofString z) (Text.ofString y) (Text.ofString x) a)

/-- The coordinate that an address names. -/
def ofAddress (s : String) : Coordinate :=
  ofPositions fun a => Address.position (Address.part? (Text.ofString s) a)

/-- The warnings that reading an address gives rise to. -/
def addressNotes (s : String) : List Note :=
  Axis.all.filterMap fun a => Address.note? a (Address.part? (Text.ofString s) a)

/-- The warning that setting an axis to a value gives rise to. -/
def setNotes (a : Axis) (value : Nat) : List Note :=
  if clamp value = value then [] else [.clamped a value (clamp value)]

end Coordinate

end Ninefold
