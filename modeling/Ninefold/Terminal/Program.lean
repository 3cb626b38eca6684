import Ninefold.Editor
import Ninefold.Session.Call
import Ninefold.Terminal.Arguments
import Ninefold.Terminal.Listing
import Ninefold.Terminal.Logging

/-!
# The program

From a command line and an environment to what is printed. The store lies in
the directory that the environment names for it, or else in the place for the
data of programs in the user's home.
-/

namespace Ninefold.Terminal

/-- The directory of the store. -/
def storeRoot (env : Environment) : String :=
  let given (name : String) : Option String := (env name).filter (!·.isEmpty)
  match given "PHEXT_HOME" with
  | some root => root
  | none =>
    match (given "XDG_DATA_HOME").filter Path.isAbsolute with
    | some data => Path.child data "phext"
    | none => Path.child (Path.child ((given "HOME").getD "/root") ".local/share") "phext"

/-- The text for a scroll: the words, or the input without its last line end. -/
def givenText (words : List String) : Act Text :=
  if words.isEmpty then do
    match Act.decode (.ok (← Act.send .input)) with
    | .error e => throw (.file e)
    | .ok [] => throw .noText
    | .ok t => return t.dropLineEnd
  else return Text.ofString (" ".intercalate words)

/-- The messages of an operation. -/
def messagesOf (env : Environment) (s : Session) (c : Call) : Act String := do
  let (_, reply) ← s.call c
  return showMessages (printsColours env) reply.messages

/-- The scrolls and the messages of an operation. -/
def scrollsOf (env : Environment) (s : Session) (c : Call) : Act String := do
  let (s, reply) ← s.call c
  let colours := printsColours env
  return showScrolls colours s.settings.previewWidth reply.scrolls ++
    showMessages colours reply.messages

/-- The address of the scroll to be edited, and its text. A document that is not
there yet is begun, at the given address or at the origin. -/
def opening (s : Session) (label address : Option String) : Act (Option (String × Text)) := do
  match ← Act.attempt (s.select label address) with
  | .ok (_, reply) => return reply.selected.map fun selection =>
      (selection.place.address, selection.text.getD [])
  | .error (.unknownLabel _) => return some (address.getD Coordinate.origin.address, [])
  | .error e => throw e

/-- A scroll edited in an editor. -/
def editScrollBy (env : Environment) (editor : String → Act Unit) (s : Session)
    (label address : Option String) : Act String := do
  match ← opening s label address with
  | none => return ""
  | some (target, initial) => do
    let edited ← Editor.editBy env editor initial
    if edited = initial then return line "No changes."
    else messagesOf env s (.update label (some target) edited)

/-- What is asked of the settings by a key and a value. -/
def settingsRequest (key value : Option String) : Except Failure Session.SettingsRequest :=
  match key, value with
  | none, _ => .ok .showAll
  | some k, none => .ok (.showKey k)
  | some "default-label", some v => .ok (.setDefaultLabel v)
  | some "preview-width", some v => .ok (.setPreviewWidth v)
  | some k, some _ => .error (.unknownSetting k)

/-- Settings shown or set. -/
def configure (env : Environment) (s : Session) (key value : Option String) : Act String := do
  let request ← Act.ofExcept (settingsRequest key value)
  let (_, reply) ← s.call (.configure request)
  let shown := match request, reply.settings with
    | .showAll, some settings => showSettings settings none
    | .showKey k, some settings => showSettings settings (some k)
    | _, _ => ""
  return shown ++ showMessages (printsColours env) reply.messages

/-- What a command prints. -/
def carryOut (env : Environment) (s : Session) (label : Option String) : Command → Act String
  | .init => messagesOf env s .init
  | .select address => do
    let (_, reply) ← s.call (.select label address)
    let text := (reply.selected.bind Selection.text).map fun t => line (Text.asString t)
    return text.getD "" ++ showMessages (printsColours env) reply.messages
  | .insert address words => do messagesOf env s (.insert label address (← givenText words))
  | .update address words => do messagesOf env s (.update label address (← givenText words))
  | .edit address => editScrollBy env (Editor.start env) s label address
  | .delete address => messagesOf env s (.delete label address)
  | .list => scrollsOf env s (.list label)
  | .goTo address => messagesOf env s (.goTo label address)
  | .jump axis value => messagesOf env s (.jump label axis value)
  | .step axis forward => messagesOf env s (.step label axis forward)
  | .raw => do
    let (_, reply) ← s.call (.raw label)
    return Text.asString (reply.raw.getD [])
  | .normalize => messagesOf env s (.normalize label)
  | .importFile path => messagesOf env s (.importFile label path)
  | .exportFile path => messagesOf env s (.exportFile label path)
  | .push address path => messagesOf env s (.push label address path)
  | .pull address path => messagesOf env s (.pull label address path)
  | .slurp address directory => scrollsOf env s (.slurp label address directory)
  | .exportJson path => do
    let (_, reply) ← s.call (.exportJson label path)
    let json := reply.raw.map fun t => line (Text.asString t)
    return json.getD "" ++ showMessages (printsColours env) reply.messages
  | .contents => do
    let (s, reply) ← s.call (.contents label)
    let colours := printsColours env
    return showContents colours s.settings.previewWidth reply.contents ++
      showMessages colours reply.messages
  | .documents => do
    let (_, reply) ← s.call .documents
    let colours := printsColours env
    return showRecords colours (← Act.send .now) reply.records ++
      showMessages colours reply.messages
  | .remove => messagesOf env s (.remove label)
  | .path => do return line (← s.path label)
  | .configure key value => configure env s key value

/-- What an invocation prints, from the opening of the store on. -/
def invoke (env : Environment) (i : Invocation) : Act String := do
  let root := storeRoot env
  let s ← Session.openAt (.disk root) root
  carryOut env s i.label i.command

/-- How the program ends: its exit code, and what it prints last on its two
outputs. -/
structure Ending where
  code : Nat
  out : String
  err : String
deriving DecidableEq

/-- The ending that an outcome leads to. -/
def Ending.of : Except Failure String → Ending
  | .ok out => ⟨0, out, ""⟩
  | .error e => ⟨1, "", line ("Error: " ++ e.message)⟩

/-- What the program says of its own version. -/
def versionText : String := line "phext 0.3.2"

/-- What the program says of how it is used. -/
def usageText : String :=
  line "Usage: phext [OPTIONS] [COMMAND]" ++
    line ("Commands: " ++ ", ".intercalate Arguments.names)

/-- The program's course for a command line, to its ending. -/
def program (env : Environment) (args : List String) : Script Ending :=
  match Arguments.wish? args with
  | none => pure ⟨2, "", usageText⟩
  | some .help => pure ⟨0, usageText, ""⟩
  | some .version => pure ⟨0, versionText, ""⟩
  | some (.run i) => do return .of (← (invoke env i).run)

/-- How the notes of a command line are shown, and the complaints about how the
environment asks for that. Where no command is carried out there are no notes,
and nobody looks at how to show them. -/
def logging (env : Environment) (args : List String) : Logging × List String :=
  match Arguments.wish? args with
  | some (.run i) => Logging.ofEnvironment env i.verbose
  | _ => (.silent, [])

end Ninefold.Terminal
