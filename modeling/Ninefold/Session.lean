import Ninefold.Catalog
import Ninefold.Pen
import Ninefold.Reply
import Ninefold.SettingsFile

/-!
# Sessions

A session is a catalog with the settings that its user has. An operation names
its document by a label and its scroll by an address; both may be left out, for
the default label and for the coordinate that the document stands at.

An operation gives the session after it. One that fails gives none, so the
session before it goes on.
-/

namespace Ninefold

/-- A catalog, the directory its user's files lie in, and the user's settings. -/
structure Session where
  catalog : Catalog
  root : String
  settings : Settings

namespace Session

/-- The session with a document saved in its catalog. -/
def save (s : Session) (doc : Stored) : Act Session := do
  return { s with catalog := ← s.catalog.save doc }

/-- The document of a label. -/
def fetch (s : Session) (label : Option String) : Act Stored :=
  s.catalog.fetch (s.settings.resolveLabel label)

/-- The document of a label, or an empty one. -/
def fetchOrStart (s : Session) (label : Option String) : Act Stored :=
  s.catalog.fetchOrStart (s.settings.resolveLabel label)

end Session

/-- The coordinate of an address, if one is given. -/
def requested (address : Option String) : Act (Option Coordinate) :=
  match address with
  | none => pure none
  | some a => do
    Act.notes (Coordinate.addressNotes a)
    return some (Coordinate.ofAddress a)

/-- The coordinate that an operation acts on: the requested one, or the one
that the document stands at. -/
def Stored.target (doc : Stored) (request : Option Coordinate) : Coordinate :=
  request.getD doc.record.coordinate

/-- The document of an edit that no reserved character stands in the way of. -/
def Act.edited (edit : Except Char Document) : Act Document :=
  Act.ofExcept (edit.mapError Failure.reserved)

/-- The document noted as read a number of times. -/
def Document.noteReading (doc : Document) (times : Nat) : Act Unit :=
  Act.notes (List.replicate times doc.readingNote)

/-- How messages name the bytes of a text. -/
def Text.inBytes (t : Text) : String := toString t.byteCount ++ " bytes"

/-- How messages name a document. -/
def labelInQuotes (label : String) : String := "'" ++ label ++ "'"

end Ninefold
