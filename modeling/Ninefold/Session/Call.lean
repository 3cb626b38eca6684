import Ninefold.Session.Movement
import Ninefold.Session.Scrolls
import Ninefold.Session.Transfer
import Ninefold.Session.Upkeep

/-!
# Calls

Every operation of a session as a value, and the one function that carries it
out. Those that edit scrolls do so with a pen; a session has the ordinary one.
-/

namespace Ninefold

/-- An operation of a session with what it is given. -/
inductive Call where
  | init
  | select (label address : Option String)
  | insert (label address : Option String) (text : Text)
  | update (label address : Option String) (text : Text)
  | delete (label address : Option String)
  | list (label : Option String)
  | goTo (label : Option String) (address : String)
  | jump (label : Option String) (axis : String) (value : Nat)
  | step (label : Option String) (axis : String) (forward : Bool)
  | raw (label : Option String)
  | normalize (label : Option String)
  | importFile (label : Option String) (path : String)
  | exportFile (label : Option String) (path : String)
  | push (label address : Option String) (path : String)
  | pull (label address : Option String) (path : String)
  | slurp (label address : Option String) (directory : String)
  | exportJson (label path : Option String)
  | contents (label : Option String)
  | documents
  | remove (label : Option String)
  | configure (request : Session.SettingsRequest)
deriving DecidableEq

namespace Session

/-- An operation carried out with a pen: the session after it, and its answer. -/
def callWith (s : Session) (pen : Pen) : Call → Act (Session × Reply)
  | .init => s.init
  | .select label address => s.select label address
  | .insert label address text => s.insert pen label address text
  | .update label address text => s.update pen label address text
  | .delete label address => s.delete pen label address
  | .list label => s.list label
  | .goTo label address => s.goToAddress label address
  | .jump label axis value => s.jump label axis value
  | .step label axis forward => s.step label axis forward
  | .raw label => s.raw label
  | .normalize label => s.normalize label
  | .importFile label path => s.importFile label path
  | .exportFile label path => s.exportFile label path
  | .push label address path => s.push pen label address path
  | .pull label address path => s.pull label address path
  | .slurp label address directory => s.slurp pen label address directory
  | .exportJson label path => s.exportJson label path
  | .contents label => s.contents label
  | .documents => s.documents
  | .remove label => s.remove label
  | .configure request => s.configure request

/-- An operation carried out: the session after it, and its answer. -/
def call (s : Session) (c : Call) : Act (Session × Reply) := s.callWith .ordinary c

/-- A session over a catalog, with the settings of its directory. -/
def openAt (catalog : Catalog) (root : String) : Act Session := do
  return ⟨catalog, root, ← Settings.load root⟩

end Session

end Ninefold
