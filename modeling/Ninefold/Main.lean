import Ninefold.Terminal.Program
import Std.Time.DateTime.Timestamp

/-!
# The program on a machine

The requests of a script carried out on the files, the clock and the streams of
the machine that the program runs on.
-/

namespace Ninefold.Machine

/-- What a refusal of the machine is called. -/
def refusal (e : IO.Error) : FileError :=
  match e with
  | .noFileOrDirectory .. => .missing
  | .permissionDenied .. => .denied
  | .alreadyExists .. => .present
  | .inappropriateType _ code _ =>
    if code = 20 then .notDirectory
    else if code = 21 then .isDirectory
    else .other (toString e)
  | e => .other (toString e)

/-- A deed with its refusal as a value. -/
def attempt {α : Type} (deed : IO α) : IO (Except FileError α) := do
  try return .ok (← deed) catch e => return .error (refusal e)

/-- The time now. -/
def now : IO Instant := do
  let passed := (← Std.Time.Timestamp.now).toNanosecondsSinceUnixEpoch.val
  let minute : Int := 60000000000
  let rest := (passed % minute).toNat
  return ⟨passed / minute, rest / 1000000000, rest % 1000000000⟩

/-- An identifier that no other document has. -/
def newId : IO Ident := do
  let number := (← IO.getRandomBytes 16).data.foldl (fun n b => n * 256 + b.toNat) 0
  let digits := (Ident.ofNat number).digits.mapIdx fun i d =>
    if i = 12 then 4 else if i = 16 then 8 + d % 4 else d
  return if h : digits.length = 32 then ⟨digits, h⟩ else default

/-- A request carried out. -/
def answer (logging : Terminal.Logging) : (r : Request) → IO r.Answer
  | .isThere path => do
    if path.isEmpty then return false else return ← ((← IO.currentDir) / path).pathExists
  | .isFile path => do
    let full := (← IO.currentDir) / path
    return (← full.pathExists) && !(← full.isDir)
  | .read path => attempt (IO.FS.readBinFile path)
  | .write path content => attempt (IO.FS.writeBinFile path content)
  | .rename source target => attempt (IO.FS.rename source target)
  | .remove path => attempt (IO.FS.removeFile path)
  | .makeDirectories path => attempt (IO.FS.createDirAll path)
  | .list path =>
    attempt do return (← ((← IO.currentDir) / path).readDir).toList.map (·.fileName)
  | .now => now
  | .newId => newId
  | .input => do (← IO.getStdin).readBinToEnd
  | .note n =>
    match logging.show? n with
    | some text => IO.eprint text
    | none => pure ()
  | .complain text => IO.eprintln text

/-- A script carried out. -/
def play {α : Type} (logging : Terminal.Logging) : Script α → IO α
  | .done a => return a
  | .ask r next => do
    let a ← answer logging r
    play logging (next a)

/-- The variables that the program asks for. -/
def variableNames : List String :=
  ["CLICOLOR_FORCE", "EDITOR", "HOME", "NO_COLOR", "PATH", "PHEXT_HOME", "RUST_LOG",
   "RUST_LOG_STYLE", "TMPDIR", "VISUAL", "XDG_DATA_HOME"]

/-- The environment of the program. -/
def environment : IO Environment := do
  let values ← variableNames.mapM fun name => do return (name, ← IO.getEnv name)
  return fun name => (values.lookup name).join

end Ninefold.Machine

/-- The program run for a command line. -/
def main (args : List String) : IO UInt32 := do
  let env ← Ninefold.Machine.environment
  let (logging, complaints) := Ninefold.Terminal.logging env args
  for complaint in complaints do IO.eprint complaint
  let ending ← Ninefold.Machine.play logging (Ninefold.Terminal.program env args)
  IO.print ending.out
  IO.eprint ending.err
  return ending.code.toUInt32
