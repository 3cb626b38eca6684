import Ninefold.Editor.LineEdit
import Ninefold.Script

/-!
# Stock editors

The commands of every system that can stand in for an editor, as scripts on the
files they are given: doing nothing with or without success, copying, removing,
cutting to a size, and editing lines in place. Each ends with whether it succeeded,
and complains where it did not.
-/

namespace Ninefold

/-- A command that can be started with arguments; it ends with whether it
succeeded. -/
abbrev Startable := List String → Script Bool

namespace Stock

/-- A complaint, and no success. -/
def fail (text : String) : Script Bool := do
  Script.send (.complain text)
  return false

/-- Whether a request was granted. -/
def granted (s : Script (Except FileError Unit)) : Script Bool := do return (← s).isOk

/-- What a refusal is called by the commands, which do not tell its number. -/
def refusal (e : FileError) : String :=
  match (Text.ofString e.message).splitOn '(' with
  | words :: _ => Text.asString (Text.trim words)
  | [] => ""

/-- The arguments that are no options. -/
def operands (args : List String) : List String :=
  args.filter fun a => !((Text.ofString a).head? == some '-' && a != "-")

/-- A file copied over another. -/
def copy (args : List String) : Script Bool := do
  match operands args with
  | [source, target] =>
    match ← Script.send (.read source) with
    | .ok content => granted (Script.send (.write target content))
    | .error .isDirectory =>
      fail ("cp: -r not specified; omitting directory '" ++ source ++ "'")
    | .error e => fail ("cp: cannot stat '" ++ source ++ "': " ++ refusal e)
  | [only] =>
    fail ("cp: missing destination file operand after '" ++ only ++
      "'\nTry 'cp --help' for more information.")
  | several =>
    fail ("cp: target '" ++ several.getLastD "" ++ "': Not a directory")

/-- Files removed. -/
def erase : List String → Script Bool
  | [] => return true
  | path :: rest => do
    let here ← granted (Script.send (.remove path))
    let others ← erase rest
    return here && others

/-- A size given by digits, or by digits after a sign for a change of size. -/
def size? (old : Nat) (t : Text) : Option Nat :=
  let number (ds : Text) : Option Nat :=
    if !ds.isEmpty && ds.all Char.isDigit then some (Nat.ofDigitChars 10 ds 0) else none
  match t with
  | '+' :: ds => (number ds).map (old + ·)
  | '-' :: ds => (number ds).map (old - ·)
  | ds => number ds

/-- Bytes cut off or filled up with zeros to a size. -/
def resized (content : ByteArray) (size : Nat) : ByteArray :=
  let kept := content.data.toList.take size
  ⟨(kept ++ List.replicate (size - kept.length) 0).toArray⟩

/-- A file given a size. -/
def resize (size : String) (path : String) : Script Bool := do
  match ← Script.send (.read path) with
  | .error _ => return false
  | .ok content =>
    match size? content.size (Text.ofString size) with
    | some n => granted (Script.send (.write path (resized content n)))
    | none => fail ("truncate: Invalid number: '" ++ size ++ "'")

/-- The size and the file among the arguments of a resizing. -/
def resizeArguments : List String → Script Bool
  | ["-s", size, path] => resize size path
  | ["--size", size, path] => resize size path
  | [option, path] =>
    let t := Text.ofString option
    let long := Text.ofString "--size="
    if long.isPrefixOf t then resize (Text.asString (t.drop long.length)) path
    else if (Text.ofString "-s").isPrefixOf t then resize (Text.asString (t.drop 2)) path
    else missingSize
  | _ => missingSize
where
  /-- No size was given. -/
  missingSize : Script Bool :=
    fail ("truncate: you must specify either '--size' or '--reference'\n" ++
      "Try 'truncate --help' for more information.")

/-- A file with a row of edits carried out on its lines. -/
def editLines (script path : String) : Script Bool := do
  let t := Text.ofString script
  match LineEdit.row? t with
  | none =>
    fail ("sed: -e expression #1, char 1: unknown command: `" ++ Text.asString (t.take 1) ++ "'")
  | some es =>
    match Act.decode (← Script.send (.read path)) with
    | .ok t => granted (Script.send (.write path (Text.bytes (LineEdit.apply es t))))
    | .error e => fail ("sed: can't read " ++ path ++ ": " ++ refusal e)

/-- The row of edits and the file among the arguments of an editing in place. -/
def editLinesArguments : List String → Script Bool
  | ["-i", script, path] => editLines script path
  | ["-i", "-e", script, path] => editLines script path
  | ["-e", script, "-i", path] => editLines script path
  | _ => fail "Usage: sed [OPTION]... [input-file]..."

/-- The command of a name. -/
def command? : String → Option Startable
  | "true" => some fun _ => pure true
  | "false" => some fun _ => pure false
  | "cp" => some copy
  | "rm" => some fun args => erase (operands args)
  | "truncate" => some resizeArguments
  | "sed" => some editLinesArguments
  | _ => none

/-- The directories that the commands lie in. -/
def directories : List String := ["/usr/bin", "/bin"]

end Stock

end Ninefold
