import Ninefold.FileTree
import Ninefold.Script

/-!
# Worlds

A world answers the requests of scripts: it has a file tree, a working
directory, a clock that stands still, a supply of identifiers and an input, and
it keeps the notes and complaints. Running a script to its end gives its result
and the world after it; `visits` gives every file tree that the script leaves
behind if it is cut short, where a file that is being written holds as much as
has come.
-/

namespace Ninefold

/-- What scripts act on. -/
structure World where
  files : FileTree
  cwd : Place
  clock : Instant
  ids : Nat
  input : ByteArray
  notes : List Note
  complaints : List String

namespace World

/-- The world after a step on its files that may be refused. -/
def change (w : World) : Except FileError FileTree → Except FileError Unit × World
  | .ok files => (.ok (), { w with files })
  | .error e => (.error e, w)

/-- The answer to a request, and the world after it. -/
def answer (w : World) : (r : Request) → r.Answer × World
  | .isThere path => (w.files.isThere w.cwd path, w)
  | .isFile path => (w.files.isFile w.cwd path, w)
  | .read path => (w.files.read w.cwd path, w)
  | .write path content => w.change (w.files.write w.cwd path content)
  | .rename source target => w.change (w.files.rename w.cwd source target)
  | .remove path => w.change (w.files.remove w.cwd path)
  | .makeDirectories path =>
    let (result, files) := w.files.makeDirectories w.cwd path
    (result, { w with files })
  | .list path => (w.files.list w.cwd path, w)
  | .now => (w.clock, w)
  | .newId => (.ofNat w.ids, { w with ids := w.ids + 1 })
  | .input => (w.input, { w with input := .empty })
  | .note n => ((), { w with notes := w.notes ++ [n] })
  | .complain text => ((), { w with complaints := w.complaints ++ [text] })

/-- The file trees that a request leaves behind, between its start and its end
and at its end. -/
def stages (w : World) (r : Request) : List FileTree :=
  match r with
  | .write path content =>
    ((List.range content.size).filterMap fun n =>
      (w.files.write w.cwd path (content.extract 0 n)).toOption) ++ [(w.answer r).2.files]
  | _ => [(w.answer r).2.files]

end World

namespace Script

variable {α β : Type}

/-- The result of a script, and the world after it. -/
def run : Script α → World → α × World
  | .done a, w => (a, w)
  | .ask r next, w =>
    let (a, w') := w.answer r
    (next a).run w'

/-- The file trees that a script leaves behind, after each of its steps. -/
def visits : Script α → World → List FileTree
  | .done _, _ => []
  | .ask r next, w =>
    let (a, w') := w.answer r
    w.stages r ++ (next a).visits w'

@[simp] theorem run_done (a : α) (w : World) : (Script.done a).run w = (a, w) := rfl

theorem run_bind (s : Script α) (f : α → Script β) (w : World) :
    (s.bind f).run w = (f (s.run w).1).run (s.run w).2 := by
  induction s generalizing w with
  | done a => rfl
  | ask r next ih => exact ih _ _

theorem visits_bind (s : Script α) (f : α → Script β) (w : World) :
    (s.bind f).visits w = s.visits w ++ (f (s.run w).1).visits (s.run w).2 := by
  induction s generalizing w with
  | done a => rfl
  | ask r next ih =>
    simp only [ask_bind, visits, run, ih]
    rw [List.append_assoc]

end Script

namespace Act

variable {α : Type}

/-- The outcome of an act, and the world after it. -/
def perform (a : Act α) (w : World) : Except Failure α × World := Script.run (ExceptT.run a) w

end Act

end Ninefold
