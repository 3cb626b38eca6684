import Ninefold.Session

/-!
# The store and its settings
-/

namespace Ninefold.Session

/-- The directory of the store made. -/
def init (s : Session) : Act (Session × Reply) := do
  Act.file (Script.send (.makeDirectories s.root))
  return (s, .success ("Initialized phext store at " ++ s.root))

/-- The records of all documents. -/
def documents (s : Session) : Act (Session × Reply) := do
  return (s, { Reply.empty with records := ← s.catalog.list })

/-- A document taken out of the catalog. -/
def remove (s : Session) (label : Option String) : Act (Session × Reply) := do
  let name := s.settings.resolveLabel label
  let catalog ← s.catalog.delete name
  return ({ s with catalog }, .success ("Removed " ++ labelInQuotes name))

/-- Where the text of a document lies. -/
def path (s : Session) (label : Option String) : Act String :=
  s.catalog.path (s.settings.resolveLabel label)

/-- What is asked of the settings. -/
inductive SettingsRequest where
  | showAll
  | showKey (key : String)
  | setDefaultLabel (value : String)
  | setPreviewWidth (value : String)
deriving DecidableEq

/-- The names of the settings. -/
def settingNames : List String := ["default-label", "preview-width"]

/-- The settings that lie in the directory of the store changed and saved, and
the message that they are. -/
def change (s : Session) (after : Except Settings.Fault Settings) (message : Settings → String) :
    Act (Settings × List Message) := do
  let settings ← Act.ofExcept (after.mapError Failure.setting)
  settings.save s.root
  return (settings, [⟨.success, message settings⟩])

/-- Settings shown or set. What lies in the directory of the store counts, and
it is the session's from then on. -/
def configure (s : Session) (request : SettingsRequest) : Act (Session × Reply) := do
  let before ← Settings.load s.root
  let (settings, messages) ← match request with
    | .showAll => pure (before, [])
    | .showKey key =>
      let unknown : Message := ⟨.warning, "Unknown config key: " ++ key⟩
      pure (before, if settingNames.contains key then [] else [unknown])
    | .setDefaultLabel value =>
      s.change (before.setDefaultLabel value) fun c => "default-label set to " ++ c.defaultLabel
    | .setPreviewWidth value =>
      s.change (before.setPreviewWidth value) fun c =>
        "preview-width set to " ++ toString c.previewWidth
  return ({ s with settings }, { Reply.empty with messages, settings := some settings })

end Ninefold.Session
