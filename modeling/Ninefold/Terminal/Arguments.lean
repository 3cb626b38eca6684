import Ninefold.Address

/-!
# Command lines

A command line is options of the program, the name of a command, and the
options and words of that command. An option's value follows it in the next
word or, after an equals sign or for one letter at once, in the same. A word
that begins with a hyphen is an option unless two hyphens alone stood before
it. No option may be given twice at one place; the label given to the command
counts before the one given to the program.
-/

namespace Ninefold.Terminal

/-- A command with the words given to it. -/
inductive Command where
  | init
  | select (address : Option String)
  | insert (address : Option String) (words : List String)
  | update (address : Option String) (words : List String)
  | edit (address : Option String)
  | delete (address : Option String)
  | list
  | goTo (address : String)
  | jump (axis : String) (value : Nat)
  | step (axis : String) (forward : Bool)
  | raw
  | normalize
  | importFile (path : String)
  | exportFile (path : String)
  | push (address : Option String) (path : String)
  | pull (address : Option String) (path : String)
  | slurp (address : Option String) (directory : String)
  | exportJson (path : Option String)
  | contents
  | documents
  | remove
  | path
  | configure (key value : Option String)
deriving DecidableEq

/-- A command to carry out, for a label, with or without details on the way. -/
structure Invocation where
  label : Option String
  verbose : Bool
  command : Command
deriving DecidableEq

/-- What a command line asks for. -/
inductive Wish where
  | help
  | version
  | run (invocation : Invocation)
deriving DecidableEq

namespace Arguments

/-- The options that take a value. -/
inductive Valued where
  | label
  | address
deriving DecidableEq

/-- What has been read of a command line, or of the part after the command's
name. -/
structure Given where
  label : Option String
  address : Option String
  verbose : Bool
  words : List String

/-- Nothing read. -/
def Given.none : Given := ⟨.none, .none, false, []⟩

/-- The place of an option: before the command's name, or after the name of a
command with an address or without. -/
inductive Level where
  | program
  | command (takesAddress : Bool)

/-- Whether an option with a value has its place there. -/
def Level.takes : Level → Valued → Bool
  | _, .label => true
  | .program, .address => false
  | .command takesAddress, .address => takesAddress

/-- What an option leads to. -/
inductive Step where
  | more (given : Given)
  | value (option : Valued) (given : Given)
  | stop (wish : Wish)

/-- An option's value taken, unless it has one. -/
def Given.take (g : Given) (option : Valued) (value : String) : Option Given :=
  match option with
  | .label => if g.label.isSome then .none else some { g with label := some value }
  | .address => if g.address.isSome then .none else some { g with address := some value }

/-- A call for details taken, unless it was made. -/
def Given.takeVerbose (g : Given) : Option Given :=
  if g.verbose then .none else some { g with verbose := true }

/-- An option that takes a value, with what follows its letter. -/
def letterValue (level : Level) (option : Valued) (t : Text) (g : Given) : Option Step :=
  if !level.takes option then none
  else match t with
    | [] => some (.value option g)
    | '=' :: v => (g.take option (Text.asString v)).map .more
    | v => (g.take option (Text.asString v)).map .more

/-- Options of one letter, written in one word. -/
def letters (level : Level) : Text → Given → Option Step
  | [], g => some (.more g)
  | 'v' :: t, g => g.takeVerbose.bind (letters level t)
  | 'l' :: t, g => letterValue level .label t g
  | 'a' :: t, g => letterValue level .address t g
  | 'h' :: _, _ => some (.stop .help)
  | 'V' :: _, _ =>
    match level with
    | .program => some (.stop .version)
    | .command _ => none
  | _, _ => none

/-- The option of a name that takes a value. -/
def valued? : String → Option Valued
  | "label" => some .label
  | "at" => some .address
  | _ => none

/-- An option with a name, without its hyphens. -/
def named (level : Level) (t : Text) (g : Given) : Option Step :=
  let name := t.takeWhile (· != '=')
  match valued? (Text.asString name), t.drop name.length with
  | some option, value =>
    if !level.takes option then none
    else match value with
      | [] => some (.value option g)
      | _ :: v => (g.take option (Text.asString v)).map .more
  | none, [] =>
    match level, Text.asString name with
    | _, "verbose" => g.takeVerbose.map .more
    | _, "help" => some (.stop .help)
    | .program, "version" => some (.stop .version)
    | _, _ => none
  | none, _ :: _ => none

/-- Whether a word is read as an option or as the end of options. -/
def isOption (word : String) : Bool :=
  match Text.ofString word with
  | '-' :: _ :: _ => true
  | _ => false

/-- How a part of a command line ends: with a wish, or with what was read and
the words from the command's name on. -/
abbrev Ended := Wish ⊕ Given × List String

/-- A command line read up to the command's name, or to its end. -/
def scan (level : Level) : List String → Given → Option Ended
  | [], g => some (.inr (g, []))
  | word :: rest, g =>
    let continue_ (step : Step) : Option Ended :=
      match step with
      | .stop wish => some (.inl wish)
      | .more g => scan level rest g
      | .value option g =>
        match rest with
        | [] => none
        | v :: rest => if isOption v then none else (g.take option v).bind (scan level rest)
    match Text.ofString word with
    | ['-', '-'] =>
      match level with
      | .program => if rest.isEmpty then some (.inr (g, [])) else none
      | .command _ => some (.inr ({ g with words := g.words ++ rest }, []))
    | '-' :: '-' :: t => (named level t g).bind continue_
    | '-' :: c :: t => (letters level (c :: t) g).bind continue_
    | _ =>
      match level with
      | .program => some (.inr (g, word :: rest))
      | .command _ => scan level rest { g with words := g.words ++ [word] }

/-- The full name of a command that may be given by a short one. -/
def fullName : String → String
  | "s" => "select"
  | "i" => "insert"
  | "u" => "update"
  | "e" => "edit"
  | "rm" => "delete"
  | "ls" => "list"
  | "g" => "goto"
  | name => name

/-- The commands that take an address as an option. -/
def addressed : List String := ["insert", "update", "push", "pull", "slurp"]

/-- A number for an axis: decimal digits after an optional sign, within 32 bits. -/
def axisValue? (word : String) : Option Nat :=
  match Text.ofString word with
  | '-' :: t => (Address.digitsValue? t).filter (· == 0)
  | t => (Address.number? t).filter (· ≤ Position.limit)

/-- The command of a full name, given its address and words. -/
def command? (name : String) (address : Option String) (words : List String) : Option Command :=
  match name, words with
  | "init", [] => some .init
  | "select", [] => some (.select none)
  | "select", [c] => some (.select (some c))
  | "insert", words => some (.insert address words)
  | "update", words => some (.update address words)
  | "edit", [] => some (.edit none)
  | "edit", [c] => some (.edit (some c))
  | "delete", [] => some (.delete none)
  | "delete", [c] => some (.delete (some c))
  | "list", [] => some .list
  | "goto", [c] => some (.goTo c)
  | "jump", [axis, value] => (axisValue? value).map (.jump axis)
  | "next", [] => some (.step "scroll" true)
  | "next", [axis] => some (.step axis true)
  | "prev", [] => some (.step "scroll" false)
  | "prev", [axis] => some (.step axis false)
  | "raw", [] => some .raw
  | "normalize", [] => some .normalize
  | "import", [path] => some (.importFile path)
  | "export", [path] => some (.exportFile path)
  | "push", [path] => some (.push address path)
  | "pull", [path] => some (.pull address path)
  | "slurp", [directory] => some (.slurp address directory)
  | "json-export", [] => some (.exportJson none)
  | "json-export", [path] => some (.exportJson (some path))
  | "toc", [] => some .contents
  | "phexts", [] => some .documents
  | "remove", [] => some .remove
  | "path", [] => some .path
  | "config", [] => some (.configure none none)
  | "config", [key] => some (.configure (some key) none)
  | "config", [key, value] => some (.configure (some key) (some value))
  | _, _ => none

/-- The names of all commands. -/
def names : List String :=
  ["init", "select", "insert", "update", "edit", "delete", "list", "goto", "jump", "next", "prev",
   "raw", "normalize", "import", "export", "push", "pull", "slurp", "json-export", "toc", "phexts",
   "remove", "path", "config"]

/-- What the words after `help` ask for: help with the program, or with a
command that there is. -/
def helpWish? : List String → Option Wish
  | [] => some .help
  | [name] => if (names ++ ["help"]).contains (fullName name) then some .help else none
  | _ => none

/-- What a command line asks for; nothing if it is not one. -/
def wish? (args : List String) : Option Wish := do
  match ← scan .program args .none with
  | .inl wish => return wish
  | .inr (outer, []) => return .run ⟨outer.label, outer.verbose, .list⟩
  | .inr (outer, given :: rest) =>
    let name := fullName given
    if name == "help" then helpWish? rest
    else if !names.contains name then none
    else
      match ← scan (.command (addressed.contains name)) rest .none with
      | .inl wish => return wish
      | .inr (inner, _) => do
        let command ← command? name inner.address inner.words
        return .run ⟨inner.label.or outer.label, outer.verbose || inner.verbose, command⟩

end Arguments

end Ninefold.Terminal
