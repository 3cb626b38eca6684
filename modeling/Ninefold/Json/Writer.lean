import Ninefold.Text.Quoted

/-!
# Writing JSON

What the library writes are strings, numbers, and objects of these. A string
escapes what JSON demands and no more. An object is written either on one line
without spaces or with a member on each line, indented by two spaces for each
object around it.
-/

namespace Ninefold.Json

/-- Four hexadecimal digits of a number below 65536. -/
def hex4 (n : Nat) : Text :=
  let digits := Text.hex n
  List.replicate (4 - digits.length) '0' ++ digits

/-- How a character stands in a string. -/
def escape (c : Char) : Text :=
  if c = '\x22' then ['\x5c', '\x22']
  else if c = '\x5c' then ['\x5c', '\x5c']
  else if c = '\x08' then ['\x5c', 'b']
  else if c = '\x0c' then ['\x5c', 'f']
  else if c = '\n' then ['\x5c', 'n']
  else if c = '\r' then ['\x5c', 'r']
  else if c = '\t' then ['\x5c', 't']
  else if c.toNat < 0x20 then ['\x5c', 'u'] ++ hex4 c.toNat
  else [c]

/-- A string between its quotes. -/
def writeString (t : Text) : Text := '\x22' :: t.flatMap escape ++ ['\x22']

/-- A value to be written. -/
inductive Draft where
  | text (value : Text)
  | number (value : Nat)
  | object (members : List (Text × Draft))
deriving Inhabited

namespace Draft

mutual

/-- A value on one line. -/
def compact : Draft → Text
  | .text t => writeString t
  | .number n => Nat.toDigits 10 n
  | .object members => '\x7b' :: compactMembers members ++ ['\x7d']

/-- Members on one line, with commas between them. -/
def compactMembers : List (Text × Draft) → Text
  | [] => []
  | [(key, value)] => writeString key ++ ':' :: value.compact
  | (key, value) :: rest => writeString key ++ ':' :: value.compact ++ ',' :: compactMembers rest

end

/-- The line end and indentation before a member at some depth. -/
def lineStart (depth : Nat) : Text := '\n' :: List.replicate (2 * depth) ' '

mutual

/-- A value with a member on each line, at some depth. -/
def indented (depth : Nat) : Draft → Text
  | .text t => writeString t
  | .number n => Nat.toDigits 10 n
  | .object [] => ['\x7b', '\x7d']
  | .object members =>
    '\x7b' :: indentedMembers (depth + 1) members ++ lineStart depth ++ ['\x7d']

/-- Members on lines of their own, with commas at the ends of all but the last. -/
def indentedMembers (depth : Nat) : List (Text × Draft) → Text
  | [] => []
  | [(key, value)] => lineStart depth ++ writeString key ++ ':' :: ' ' :: value.indented depth
  | (key, value) :: rest =>
    lineStart depth ++ writeString key ++ ':' :: ' ' :: value.indented depth
      ++ ',' :: indentedMembers depth rest

end

/-- A value with a member on each line. -/
def pretty (d : Draft) : Text := d.indented 0

end Draft

end Ninefold.Json
