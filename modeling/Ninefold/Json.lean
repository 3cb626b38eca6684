import Ninefold.Text

/-!
# JSON trees

A text is read into a tree as far as it is JSON. Where it stops being so, the
tree ends in a `broken` leaf and everything before that leaf is kept: a reader
of records meets the fields in the order they are written, and gives up only
where the text does.
-/

namespace Ninefold

/-- A JSON value, or the beginning of one. -/
inductive Json where
  | null
  | bool (value : Bool)
  /-- A number, with its value if it is written in digits alone. -/
  | number (whole : Option Nat)
  /-- A string, with its text unless half a surrogate pair stands in it. -/
  | string (text : Option Text)
  | array (items : List Json)
  | object (members : List (Option Text × Json))
  /-- The place at which the text is no JSON. -/
  | broken
deriving Inhabited

namespace Json

mutual

/-- Whether no part of a value is broken. -/
def isWhole : Json → Bool
  | .broken => false
  | .array items => allWhole items
  | .object members => allMembersWhole members
  | _ => true

/-- Whether no part of any item is broken. -/
def allWhole : List Json → Bool
  | [] => true
  | item :: rest => item.isWhole && allWhole rest

/-- Whether no part of any member's value is broken. -/
def allMembersWhole : List (Option Text × Json) → Bool
  | [] => true
  | (_, value) :: rest => value.isWhole && allMembersWhole rest

end

end Json

end Ninefold
