import Ninefold.Failure
import Ninefold.Stored

/-!
# A catalog in memory

Documents by label, for as long as the program runs.
-/

namespace Ninefold

/-- Documents by label. -/
abbrev Memory := Table String Stored

namespace Memory

/-- The catalog with a document, in place of one of the same label. -/
def save (m : Memory) (s : Stored) : Memory := m.put s.record.label s

/-- The document of a label, if there is one. -/
def fetch? (m : Memory) (label : String) : Option Stored := m.get? label

/-- The records of all documents, by label. -/
def list (m : Memory) : List Record := m.values.map Stored.record

/-- The catalog without a document that it has. -/
def delete (m : Memory) (label : String) : Except Failure Memory :=
  if m.contains label then .ok (m.erase label) else .error (.unknownLabel label)

/-- Where a document is said to lie. -/
def path (m : Memory) (label : String) : Except Failure String :=
  match m.fetch? label with
  | none => .error (.unknownLabel label)
  | some s => .ok ("memory://phext-" ++ s.record.id.asString)

end Memory

end Ninefold
