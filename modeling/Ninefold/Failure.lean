import Ninefold.Delimiters
import Ninefold.FileError
import Ninefold.Settings

/-!
# Failures

The causes for which an operation gives no answer, and their wording.
-/

namespace Ninefold

/-- Why an operation gives no answer. -/
inductive Failure where
  /-- No document has the label. -/
  | unknownLabel (label : String)
  /-- The file system refuses. -/
  | file (cause : FileError)
  /-- A file of the store is not the JSON it should be. -/
  | malformedJson
  /-- Nine characters are no delimiter set. -/
  | delimiters (fault : Delimiters.Fault)
  /-- A text for a scroll holds a delimiter. -/
  | reserved (char : Char)
  /-- No axis has the name. -/
  | unknownAxis (name : String)
  /-- A file or directory that the user named cannot be read. -/
  | unreadable (path : String) (cause : FileError)
  /-- No coordinate is left for a file. -/
  | noPlaceLeft (file : String)
  /-- A setting cannot have the value. -/
  | setting (fault : Settings.Fault)
  /-- No setting has the name. -/
  | unknownSetting (key : String)
  /-- No editor is named and none is at hand. -/
  | noEditor
  /-- The editor cannot be started. -/
  | editorNotStarted (command : String) (cause : FileError)
  /-- The editor was started and failed. -/
  | editorFailed (command : String)
  /-- No text was given where one is needed. -/
  | noText
deriving DecidableEq

namespace Failure

/-- The wording of a failure of an operation that was asked for wrongly. -/
def requestMessage (s : String) : String := "Api Error: " ++ s

/-- The wording of a failure. -/
def message : Failure → String
  | .unknownLabel label => "Phext not found: " ++ label
  | .file cause => "IO error: " ++ cause.message
  | .malformedJson => "Serialization error: the text is not the expected JSON"
  | .delimiters fault => "Invalid delimiter set: " ++ fault.message
  | .reserved c => "Text contains the reserved delimiter " ++ Text.asString (Text.quotedChar c)
  | .unknownAxis name => requestMessage ("Unknown axis: " ++ name)
  | .unreadable path cause => requestMessage ("Failed to read " ++ path ++ ": " ++ cause.message)
  | .noPlaceLeft name => requestMessage ("No scroll positions left for " ++ name)
  | .setting fault => requestMessage fault.message
  | .unknownSetting key => requestMessage ("Unknown config key: " ++ key)
  | .noEditor => requestMessage "No editor found. Set $EDITOR environment variable."
  | .editorNotStarted command cause =>
    requestMessage ("Failed to launch editor '" ++ command ++ "': " ++ cause.message)
  | .editorFailed command =>
    requestMessage ("Editor '" ++ command ++ "' exited with non-zero status")
  | .noText => requestMessage "No text given. Pass it as arguments or pipe it on stdin."

end Failure

end Ninefold
