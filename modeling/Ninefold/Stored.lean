import Ninefold.Document
import Ninefold.Record

/-!
# Stored documents

A document as a store holds it: its record and its text.
-/

namespace Ninefold

/-- A record and the text that goes with it. -/
structure Stored where
  record : Record
  raw : Text
deriving DecidableEq, Inhabited

namespace Stored

/-- The text, to be read by the standard delimiters. -/
def document (s : Stored) : Document := .ofText s.raw

/-- An empty document at the origin. -/
def fresh (label : String) (now : Instant) (id : Ident) : Stored :=
  ⟨⟨id, label, now, now, .origin⟩, []⟩

/-- The document with a text of a later time. -/
def withText (s : Stored) (raw : Text) (now : Instant) : Stored :=
  ⟨{ s.record with updatedAt := now }, raw⟩

/-- The document with another current coordinate. -/
def moveTo (s : Stored) (c : Coordinate) : Stored :=
  { s with record := { s.record with coordinate := c } }

end Stored

end Ninefold
