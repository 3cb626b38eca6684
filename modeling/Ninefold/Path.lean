import Ninefold.Text

/-!
# Paths

A path is a row of names between slashes. One that begins with a slash starts
at the root, any other at the working directory. A path that ends in a slash,
or in the name of the directory itself or of the one above, says of itself that
it leads to a directory.
-/

namespace Ninefold

namespace Path

/-- The names in a path. -/
def names (path : String) : List String :=
  (((Text.ofString path).splitOn '/').filter (!·.isEmpty)).map Text.asString

/-- Whether a path begins at the root. -/
def isAbsolute (path : String) : Bool := (Text.ofString path).head? == some '/'

/-- Whether a path says of itself that it leads to a directory. -/
def meansDirectory (path : String) : Bool :=
  match ((Text.ofString path).splitOn '/').getLast? with
  | some last => last.isEmpty || last == ['.'] || last == ['.', '.']
  | none => false

/-- The path to the directory that a path's last name is in; the working
directory's is empty. -/
def parent? (path : String) : Option String :=
  match (names path).filter (· != ".") with
  | [] => none
  | ns =>
    let above := "/".intercalate ns.dropLast
    some (if isAbsolute path then "/" ++ above else above)

/-- The path of a name in a directory. -/
def child (directory name : String) : String :=
  if directory.isEmpty || (Text.ofString directory).getLast? == some '/' then directory ++ name
  else directory ++ "/" ++ name

end Path

end Ninefold
