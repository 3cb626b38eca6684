import Ninefold.Session

/-!
# Moving about in a document

Each of these sets the coordinate that a document stands at, and begins the
document if there is none.
-/

namespace Ninefold.Session

/-- A document stood at a coordinate. -/
def goTo (s : Session) (label : Option String) (target : Coordinate) : Act (Session × Reply) := do
  let doc ← s.fetchOrStart label
  let s ← s.save (doc.moveTo target)
  doc.document.noteReading 1
  let here : List Message := [⟨.info, "Now at " ++ target.address⟩]
  let messages :=
    if (doc.document.select target).isNone then here ++ [⟨.info, "Nothing written here yet"⟩]
    else here
  return (s, { Reply.empty with messages })

/-- A document stood at an address. -/
def goToAddress (s : Session) (label : Option String) (address : String) :
    Act (Session × Reply) := do
  Act.notes (Coordinate.addressNotes address)
  s.goTo label (Coordinate.ofAddress address)

/-- The axis of a name. -/
def axisNamed (name : String) : Act Axis :=
  match Axis.ofName? name with
  | some a => pure a
  | none => throw (.unknownAxis name)

/-- The coordinate that a document stands at; the origin if there is none. -/
def standing (s : Session) (label : Option String) : Act Coordinate := do
  match ← s.catalog.fetch? (s.settings.resolveLabel label) with
  | some doc => return doc.record.coordinate
  | none => return .origin

/-- A document moved to a position on one axis, the others kept. -/
def jump (s : Session) (label : Option String) (axis : String) (value : Nat) :
    Act (Session × Reply) := do
  let a ← axisNamed axis
  let here ← s.standing label
  Act.notes (Coordinate.setNotes a value)
  s.goTo label (here.set a value)

/-- A document moved to a neighbour on one axis. -/
def step (s : Session) (label : Option String) (axis : String) (forward : Bool) :
    Act (Session × Reply) := do
  let a ← axisNamed axis
  let here ← s.standing label
  s.goTo label (if forward then here.next a else here.previous a)

end Ninefold.Session
