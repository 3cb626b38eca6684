import Ninefold.Failure
import Ninefold.Path

/-!
# Scripts

What the library does to the world outside is a value: a script asks one thing
after another and goes on as it is answered. A script can be run on a file tree
held in memory, step by step and cut short at any of them, or on the machine.
`Act` is a script that may give up with a failure.
-/

namespace Ninefold

/-- One thing that a script asks for. -/
inductive Request where
  | isThere (path : String)
  | isFile (path : String)
  | read (path : String)
  | write (path : String) (content : ByteArray)
  | rename (source target : String)
  | remove (path : String)
  | makeDirectories (path : String)
  | list (path : String)
  | now
  | newId
  | input
  | note (note : Note)
  | complain (text : String)

/-- The type of the answer to a request. -/
abbrev Request.Answer : Request → Type
  | .isThere _ => Bool
  | .isFile _ => Bool
  | .read _ => Except FileError ByteArray
  | .write _ _ => Except FileError Unit
  | .rename _ _ => Except FileError Unit
  | .remove _ => Except FileError Unit
  | .makeDirectories _ => Except FileError Unit
  | .list _ => Except FileError (List String)
  | .now => Instant
  | .newId => Ident
  | .input => ByteArray
  | .note _ => Unit
  | .complain _ => Unit

/-- A course of requests that ends in a result. -/
inductive Script (α : Type) where
  | done (result : α)
  | ask (request : Request) (next : request.Answer → Script α)

namespace Script

variable {α β : Type}

/-- One script after another. -/
def bind : Script α → (α → Script β) → Script β
  | .done a, f => f a
  | .ask r next, f => .ask r fun answer => (next answer).bind f

instance : Monad Script where
  pure := .done
  bind := bind

/-- The script of one request. -/
def send (r : Request) : Script r.Answer := .ask r .done

@[simp] theorem done_bind (a : α) (f : α → Script β) : (Script.done a).bind f = f a := rfl

@[simp] theorem ask_bind (r : Request) (next : r.Answer → Script α) (f : α → Script β) :
    (Script.ask r next).bind f = .ask r fun answer => (next answer).bind f := rfl

@[simp] theorem bind_done (s : Script α) : s.bind .done = s := by
  induction s with
  | done a => rfl
  | ask r next ih => simp [ih]

theorem bind_assoc {γ : Type} (s : Script α) (f : α → Script β) (g : β → Script γ) :
    (s.bind f).bind g = s.bind fun a => (f a).bind g := by
  induction s with
  | done a => rfl
  | ask r next ih => simp [ih]

end Script

/-- A script that may give up. -/
abbrev Act := ExceptT Failure Script

namespace Act

/-- A request that cannot fail. -/
def send (r : Request) : Act r.Answer := ExceptT.lift (Script.send r)

/-- An outcome that is known already. -/
def ofExcept {α : Type} (r : Except Failure α) : Act α := ExceptT.mk (pure r)

/-- A request to the file system; a refusal is a failure. -/
def file {α : Type} (s : Script (Except FileError α)) : Act α :=
  ExceptT.mk do
    match ← s with
    | .ok a => return .ok a
    | .error e => return .error (.file e)

/-- The text of bytes, or the refusal to take them for text. -/
def decode : Except FileError ByteArray → Except FileError Text
  | .error e => .error e
  | .ok content => (Text.ofBytes? content).elim (.error .notText) .ok

/-- The text of a file. -/
def readText (path : String) : Act Text := file (decode <$> Script.send (.read path))

/-- The outcome of an act, whatever it is. -/
def attempt {α : Type} (a : Act α) : Act (Except Failure α) := ExceptT.mk (Except.ok <$> a.run)

/-- The text of a file that the user named. -/
def readSource (path : String) : Act Text :=
  ExceptT.mk do
    match decode (← Script.send (.read path)) with
    | .ok t => return .ok t
    | .error e => return .error (.unreadable path e)

/-- A text written to a file. -/
def writeText (path : String) (t : Text) : Act Unit := file (Script.send (.write path t.bytes))

/-- Notes for whoever listens. -/
def notes : List Note → Act Unit
  | [] => pure ()
  | n :: rest => do
    send (.note n)
    notes rest

/-- The result of a reading, with its notes passed on. -/
def reading {α : Type} (r : Reading α) : Act α := do
  let (result, ns) := r.notes
  notes ns
  match result with
  | some a => pure a
  | none => throw .malformedJson

end Act

end Ninefold
