import Ninefold.Address
import Ninefold.Ident
import Ninefold.Instant
import Ninefold.Json.Reader
import Ninefold.Json.Writer

/-!
# Records

What a store knows of a document besides its text. A record is written as a
JSON object with its fields in a fixed order; the index of a store is an object
of records by label.

A record is read field by field as it is written, so the warnings about a
coordinate come out even where the text breaks off later. The fields may also
stand in an array, in their order. A field that no record has is passed over if
it is JSON at all; one that a record has must come once and be of its kind.
-/

namespace Ninefold

/-- What is known of a document besides its text. -/
structure Record where
  id : Ident
  label : String
  createdAt : Instant
  updatedAt : Instant
  coordinate : Coordinate
deriving DecidableEq, Inhabited

/-- A reading that may fail and that leaves notes either way. -/
abbrev Reading := OptionT (StateM (List Note))

namespace Reading

/-- The result of a reading and its notes, in order. -/
def notes {α : Type} (r : Reading α) : Option α × List Note := StateT.run (OptionT.run r) []

/-- A reading that adds notes. -/
def note (ns : List Note) : Reading Unit := modify (· ++ ns)

/-- A reading that may fail and has nothing to note. -/
def ofOption {α : Type} : Option α → Reading α
  | some a => pure a
  | none => failure

/-- The text of a string. -/
def text : Json → Reading Text
  | .string (some t) => pure t
  | _ => failure

/-- The string of a string. -/
def string (j : Json) : Reading String := Text.asString <$> text j

/-- The value of a whole JSON text. -/
def whole {α : Type} (read : Json → Reading α) (t : Text) : Reading α := do
  let (tree, complete) := Json.parse t
  let a ← read tree
  if complete then pure a else failure

end Reading

namespace Coordinate

/-- A coordinate, written as its address. -/
def read (j : Json) : Reading Coordinate := do
  let address ← Reading.string j
  Reading.note (addressNotes address)
  pure (ofAddress address)

end Coordinate

namespace Record

/-- The fields of a record that have been read. -/
structure Fields where
  id : Option Ident
  label : Option String
  createdAt : Option Instant
  updatedAt : Option Instant
  coordinate : Option Coordinate

/-- No field. -/
def Fields.none : Fields := ⟨.none, .none, .none, .none, .none⟩

/-- The record of fields of which only the coordinate may be missing. -/
def Fields.record? (f : Fields) : Option Record := do
  return ⟨← f.id, ← f.label, ← f.createdAt, ← f.updatedAt, f.coordinate.getD .origin⟩

/-- An identifier. -/
def readId (j : Json) : Reading Ident := do Reading.ofOption (Ident.ofText? (← Reading.text j))

/-- An instant. -/
def readInstant (j : Json) : Reading Instant := do
  Reading.ofOption (Instant.ofText? (← Reading.text j))

/-- A value for a field that has none yet. -/
def once {α : Type} (old : Option α) (read : Reading α) : Reading (Option α) :=
  if old.isSome then failure else some <$> read

/-- The fields after one more member of an object. -/
def Fields.readMember (f : Fields) (key : Option Text) (value : Json) : Reading Fields := do
  match ← Text.asString <$> Reading.ofOption key with
  | "id" => return { f with id := ← once f.id (readId value) }
  | "label" => return { f with label := ← once f.label (Reading.string value) }
  | "created_at" => return { f with createdAt := ← once f.createdAt (readInstant value) }
  | "updated_at" => return { f with updatedAt := ← once f.updatedAt (readInstant value) }
  | "coordinate" => return { f with coordinate := ← once f.coordinate (Coordinate.read value) }
  | _ => if value.isWhole then return f else failure

/-- The fields after all members of an object. -/
def Fields.readMembers : List (Option Text × Json) → Fields → Reading Fields
  | [], f => pure f
  | (key, value) :: rest, f => do readMembers rest (← f.readMember key value)

/-- A record from a JSON value. -/
def read : Json → Reading Record
  | .object members => do
    Reading.ofOption (← Fields.readMembers members .none).record?
  | .array (id :: label :: createdAt :: updatedAt :: rest) => do
    let id ← readId id
    let label ← Reading.string label
    let createdAt ← readInstant createdAt
    let updatedAt ← readInstant updatedAt
    match rest with
    | [] => return ⟨id, label, createdAt, updatedAt, .origin⟩
    | [coordinate] => return ⟨id, label, createdAt, updatedAt, ← Coordinate.read coordinate⟩
    | coordinate :: _ => do
      let _ ← Coordinate.read coordinate
      failure
  | _ => failure

/-- The JSON value of a record. -/
def draft (r : Record) : Json.Draft :=
  .object
    [(Text.ofString "id", .text r.id.text),
     (Text.ofString "label", .text (Text.ofString r.label)),
     (Text.ofString "created_at", .text r.createdAt.text),
     (Text.ofString "updated_at", .text r.updatedAt.text),
     (Text.ofString "coordinate", .text (Text.ofString r.coordinate.address))]

end Record

/-- The records of a store by label. -/
abbrev Index := Table String Record

namespace Index

/-- The records of the members of an object; of several under one label the
last counts. -/
def readMembers : List (Option Text × Json) → Index → Reading Index
  | [], index => pure index
  | (key, value) :: rest, index => do
    let label ← Reading.ofOption key
    let record ← Record.read value
    readMembers rest (index.put (Text.asString label) record)

/-- An index from a JSON value. -/
def read : Json → Reading Index
  | .object members => readMembers members .empty
  | _ => failure

/-- The JSON value of an index. -/
def draft (index : Index) : Json.Draft :=
  .object (index.entries.map fun (label, r) => (Text.ofString label, r.draft))

end Index

end Ninefold
