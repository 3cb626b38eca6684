import Ninefold.Script

/-!
# The file of settings

Settings lie in `config.json` in the directory of the store. Where there is no
such file the standard settings hold.
-/

namespace Ninefold

namespace Settings

/-- The path of the settings in a directory. -/
def path (directory : String) : String := Path.child directory "config.json"

/-- The settings of a directory. -/
def load (directory : String) : Act Settings := do
  if ← Act.send (.isThere (path directory)) then
    Act.reading (Reading.whole read (← Act.readText (path directory)))
  else
    return standard

/-- Settings written to a directory, which is made if it is not there. -/
def save (s : Settings) (directory : String) : Act Unit := do
  unless ← Act.send (.isThere directory) do
    Act.file (Script.send (.makeDirectories directory))
  Act.writeText (path directory) s.draft.pretty

end Settings

end Ninefold
