import Ninefold.Editor.Stock
import Ninefold.Text.LineEnd

/-!
# Editing in an editor

The text of a scroll is written to a scratch file, the user's editor is given
that file, and what the editor leaves there, less the last line end, is the new
text. The editor is a command with arguments, named in the environment. Where
none is named, the usual ones are looked for among the commands of the system.
These are the stock ones here, and no usual editor is one of them.
-/

namespace Ninefold

/-- The variables that a program is started with. -/
abbrev Environment := String → Option String

namespace Editor

/-- A directory's path without the slashes it ends with. -/
def bare (directory : Text) : Text :=
  directory.foldr (fun c rest => if rest.isEmpty && c == '/' then [] else c :: rest) []

/-- Whether the commands of the system are looked for where they lie. -/
def findsStock (env : Environment) : Bool :=
  match env "PATH" with
  | none => true
  | some path => ((Text.ofString path).splitOn ':').any fun d =>
      Stock.directories.contains (Text.asString (bare d))

/-- The command that the environment names for the user's editor: the first
variable that is not blank. -/
def named? (env : Environment) : Option String :=
  [env "EDITOR", env "VISUAL"].findSome? fun value =>
    value.filter fun v => !Text.allBlank (Text.ofString v)

/-- The editors that are looked for where none is named. -/
def usual : List String := ["vim", "vi", "nano"]

/-- Whether a command of the system is found by its name. -/
def isFound (env : Environment) (name : String) : Bool :=
  (Stock.command? name).isSome && findsStock env

/-- The command of the user's editor: the one that is named, or the first of
the usual ones that is found. -/
def chosen (env : Environment) : Except Failure String :=
  match (named? env).or (usual.find? (isFound env)) with
  | some command => .ok command
  | none => .error .noEditor

/-- The command that a program's name leads to, by its path or by where
commands are looked for. -/
def program (env : Environment) (name : String) : Script (Except FileError Startable) :=
  let t := Text.ofString name
  if t.contains '/' then
    let file := (t.reverse.takeWhile (· != '/')).reverse
    let directory := bare (t.take (t.length - file.length))
    match Stock.command? (Text.asString file) with
    | some command =>
      if Stock.directories.contains (Text.asString directory) then pure (.ok command)
      else refused
    | none => refused
  else
    match Stock.command? name with
    | some command => pure (if findsStock env then .ok command else .error .missing)
    | none => pure (.error .missing)
where
  /-- What lies at the path is no program. -/
  refused : Script (Except FileError Startable) := do
    match ← Script.send (.read name) with
    | .ok _ => return .error .denied
    | .error .isDirectory => return .error .denied
    | .error e => return .error e

/-- The user's editor, started on a file and left with success. -/
def start (env : Environment) (path : String) : Act Unit := do
  let command ← Act.ofExcept (chosen env)
  let words := (Text.words (Text.ofString command)).map Text.asString
  match ← ExceptT.lift (program env (words.headD command)) with
  | .error e => throw (.editorNotStarted command e)
  | .ok run => do
    if ← ExceptT.lift (run (words.drop 1 ++ [path])) then pure ()
    else throw (.editorFailed command)

/-- The directory for scratch files. -/
def scratchDirectory (env : Environment) : String := (env "TMPDIR").getD "/tmp"

/-- The name of the scratch file of an identifier. -/
def scratchName (id : Ident) : String := "phext_edit_" ++ id.asString ++ ".txt"

/-- The path of a scratch file to which a text is written. -/
def scratch (env : Environment) (initial : Text) : Act String := do
  let id ← Act.send .newId
  let path := Path.child (scratchDirectory env) (scratchName id)
  Act.writeText path initial
  return path

/-- The text that an editor makes of one, where an editor is any act on a
scratch file. -/
def editBy (env : Environment) (editor : String → Act Unit) (initial : Text) : Act Text := do
  let path ← scratch env initial
  let outcome ← Act.attempt (editor path >>= fun _ => Act.readText path)
  let _ ← Act.send (.remove path)
  let edited ← Act.ofExcept outcome
  return edited.dropLineEnd

/-- The text that the user makes of one in an editor. -/
def edit (env : Environment) (initial : Text) : Act Text := editBy env (start env) initial

end Editor

end Ninefold
