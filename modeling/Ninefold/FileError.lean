/-!
# Refusals of the file system

Why a file system does not do what it is asked. The wording is that of the
system, with the number it gives to the cause.
-/

namespace Ninefold

/-- Why a request to the file system fails. -/
inductive FileError where
  | missing
  | denied
  | present
  | notDirectory
  | isDirectory
  | nameTooLong
  | nulInName
  | notText
  /-- Any other cause, in the words of the system. -/
  | other (words : String)
deriving DecidableEq

namespace FileError

/-- The wording of a refusal. -/
def message : FileError → String
  | .missing => "No such file or directory (os error 2)"
  | .denied => "Permission denied (os error 13)"
  | .present => "File exists (os error 17)"
  | .notDirectory => "Not a directory (os error 20)"
  | .isDirectory => "Is a directory (os error 21)"
  | .nameTooLong => "File name too long (os error 36)"
  | .nulInName => "file name contained an unexpected NUL byte"
  | .notText => "stream did not contain valid UTF-8"
  | .other words => words

end FileError

end Ninefold
