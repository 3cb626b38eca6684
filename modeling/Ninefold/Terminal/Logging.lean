import Ninefold.Note
import Ninefold.Terminal.Style

/-!
# Showing notes

Which notes are shown is decided by a list of levels for the parts of the
program, the longest name that fits a note's origin first. The list comes from
the environment; without one, warnings are shown, and details too if the user
wants them.
-/

namespace Ninefold.Terminal

/-- How much is shown of a part of the program. -/
inductive Verbosity where
  | off
  | errors
  | warnings
  | infos
  | details
  | traces
deriving DecidableEq

namespace Verbosity

/-- The verbosity of a name in letters of either case. -/
def ofText? (t : Text) : Option Verbosity :=
  match Text.asString (t.map Char.toLower) with
  | "off" => some .off
  | "error" => some .errors
  | "warn" => some .warnings
  | "info" => some .infos
  | "debug" => some .details
  | "trace" => some .traces
  | _ => none

/-- Whether notes of a severity are shown. -/
def shows : Verbosity → Severity → Bool
  | .off, _ => false
  | .errors, _ => false
  | .warnings, .warning => true
  | .warnings, .detail => false
  | .infos, .warning => true
  | .infos, .detail => false
  | .details, _ => true
  | .traces, _ => true

end Verbosity

/-- A verbosity for the parts whose names begin in one way, or for all. -/
structure Directive where
  name : Option Text
  verbosity : Verbosity

/-- Which notes are shown, and how. -/
structure Logging where
  directives : List Directive
  contains : Option Text
  colours : Bool

namespace Logging

/-- No note is shown. -/
def silent : Logging := ⟨[], none, false⟩

/-- A directive, or what is wrong with it. -/
def directive (t : Text) : Except String Directive :=
  match t.splitOn '=' with
  | [word] =>
    match Verbosity.ofText? word with
    | some v => .ok ⟨none, v⟩
    | none => .ok ⟨some word, .traces⟩
  | [name, level] =>
    let level := Text.trim level
    if level.isEmpty then .ok ⟨some name, .traces⟩
    else match Verbosity.ofText? level with
      | some v => .ok ⟨some name, v⟩
      | none => .error (invalid level)
  | _ => .error (invalid t)
where
  /-- The complaint about a part of the list. -/
  invalid (t : Text) : String := "invalid logging spec '" ++ Text.asString t ++ "'"

/-- A directive added in place of one for the same name. -/
def add (ds : List Directive) (d : Directive) : List Directive :=
  if ds.any (·.name == d.name) then ds.map fun e => if e.name == d.name then d else e
  else ds ++ [d]

/-- Whether a text is contained in another. -/
def isWithin (part : Text) : Text → Bool
  | [] => part.isEmpty
  | c :: t => part.isPrefixOf (c :: t) || isWithin part t

/-- The directives that a list writes, the text that notes must contain, and the
complaints about the list. -/
def readList (t : Text) : List Directive × Option Text × List String :=
  match t.splitOn '/' with
  | [] => ([], none, [])
  | parts :: more =>
    if more.length > 1 then
      ([], none, ["invalid logging spec '" ++ Text.asString t ++ "' (too many '/'s)"])
    else
      let pieces := ((parts.splitOn ',').map Text.trim).filter (!·.isEmpty)
      let (ds, complaints) := pieces.foldl (fun (ds, complaints) piece =>
        match directive piece with
        | .ok d => (add ds d, complaints)
        | .error e => (ds, complaints ++ [e])) ([], [])
      (ds, more.head?, complaints)

/-- What an environment and the user's wish for details make of the notes, and
the complaints about the environment. -/
def ofEnvironment (env : Environment) (verbose : Bool) : Logging × List String :=
  let colours := notesColours env
  match env "RUST_LOG" with
  | none =>
    (⟨[⟨none, if verbose then .details else .warnings⟩], none, colours⟩, [])
  | some list =>
    let (ds, contains, complaints) := readList (Text.ofString list)
    (⟨if ds.isEmpty then [⟨none, .errors⟩] else ds, contains, colours⟩,
      complaints.map fun c => "warning: " ++ c ++ ", ignoring it\n")

/-- The length of the name of a directive. -/
def Directive.weight (d : Directive) : Nat := (d.name.getD []).length

/-- The directive that decides on an origin: the longest that fits it, and of
several the last. -/
def deciding? (l : Logging) (origin : Text) : Option Directive :=
  (l.directives.filter fun d => (d.name.getD []).isPrefixOf origin).foldl
    (fun best d =>
      match best with
      | none => some d
      | some b => if Directive.weight b ≤ Directive.weight d then some d else some b) none

/-- Whether a note is shown. -/
def shows (l : Logging) (n : Note) : Bool :=
  (match l.deciding? (Text.ofString n.origin) with
    | some d => d.verbosity.shows n.severity
    | none => false) &&
  (match l.contains with
    | some part => isWithin part (Text.ofString n.text)
    | none => true)

/-- The name of a severity and the code of its colour. -/
def severityName : Severity → String × String
  | .warning => ("WARN ", "33")
  | .detail => ("DEBUG", "34")

/-- The line of a note; further lines of its text are indented. -/
def line (l : Logging) (n : Note) : String :=
  let (name, colour) := severityName n.severity
  let grey (s : String) : String := if l.colours then Style.code "90" ++ s ++ Style.reset else s
  let name := if l.colours then Style.code colour ++ name ++ Style.reset else name
  grey "[" ++ name ++ " " ++ n.origin ++ grey "]" ++ " " ++
    "\n    ".intercalate (n.text.splitOn "\n") ++ "\n"

/-- What is shown of a note. -/
def show? (l : Logging) (n : Note) : Option String := if l.shows n then some (l.line n) else none

end Logging

end Ninefold.Terminal
