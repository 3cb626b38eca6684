import Ninefold.FileError
import Ninefold.Path
import Ninefold.Table

/-!
# File trees

Files and directories as far as a store can see them: a table from the names
that lead to an entry to the entry. A path is followed name by name, and
whatever it passes through must be a directory.
-/

namespace Ninefold

/-- What lies at a place. -/
inductive Entry where
  | file (content : ByteArray)
  | directory

/-- Whether an entry is a directory. -/
def Entry.isDirectory : Entry → Bool
  | .file _ => false
  | .directory => true

/-- The names that lead from the root to an entry. -/
abbrev Place := List String

/-- The entries of a file system by place. The root is always a directory. -/
structure FileTree where
  entries : Table Place Entry

namespace FileTree

/-- The tree without entries. -/
def empty : FileTree := ⟨.empty⟩

instance : Inhabited FileTree := ⟨empty⟩

/-- What lies at a place. -/
def at? (t : FileTree) (p : Place) : Option Entry :=
  if p.isEmpty then some .directory else t.entries.get? p

/-- Whether a directory lies at a place. -/
def hasDirectory (t : FileTree) (p : Place) : Bool := (t.at? p).any Entry.isDirectory

/-- The tree with an entry at a place. -/
def set (t : FileTree) (p : Place) (e : Entry) : FileTree := ⟨t.entries.put p e⟩

/-- The tree without the entry at a place. -/
def unset (t : FileTree) (p : Place) : FileTree := ⟨t.entries.erase p⟩

/-! ## Paths -/

/-- The most bytes that a name may have. -/
def nameLimit : Nat := 255

/-- The most bytes that a path may have. -/
def pathLimit : Nat := 4095

/-- The place that names lead to from a directory. -/
def follow (t : FileTree) (start : Place) : List String → Except FileError Place
  | [] => .ok start
  | name :: rest =>
    match t.at? start with
    | none => .error .missing
    | some (.file _) => .error .notDirectory
    | some .directory =>
      if name == "." then follow t start rest
      else if name == ".." then follow t start.dropLast rest
      else if name.utf8ByteSize > nameLimit then .error .nameTooLong
      else follow t (start ++ [name]) rest

/-- The place that a path leads to from a working directory. -/
def locate (t : FileTree) (cwd : Place) (path : String) : Except FileError Place :=
  if (Text.ofString path).contains '\x00' then .error .nulInName
  else if path.isEmpty then .error .missing
  else if path.utf8ByteSize > pathLimit then .error .nameTooLong
  else t.follow (if Path.isAbsolute path then [] else cwd) (Path.names path)

/-- What a path leads to. -/
def find (t : FileTree) (cwd : Place) (path : String) : Except FileError (Place × Entry) := do
  let p ← t.locate cwd path
  match t.at? p with
  | none => .error .missing
  | some .directory => .ok (p, .directory)
  | some (.file content) =>
    if Path.meansDirectory path then .error .notDirectory else .ok (p, .file content)

/-- Whether a path leads to anything. -/
def isThere (t : FileTree) (cwd : Place) (path : String) : Bool := (t.find cwd path).isOk

/-- Whether a path leads to a file. -/
def isFile (t : FileTree) (cwd : Place) (path : String) : Bool :=
  match t.find cwd path with
  | .ok (_, .file _) => true
  | _ => false

/-- Whether a path leads to a directory. -/
def isDirectory (t : FileTree) (cwd : Place) (path : String) : Bool :=
  match t.find cwd path with
  | .ok (_, .directory) => true
  | _ => false

/-! ## Requests -/

/-- The content of a file. -/
def read (t : FileTree) (cwd : Place) (path : String) : Except FileError ByteArray := do
  match ← t.find cwd path with
  | (_, .file content) => .ok content
  | (_, .directory) => .error .isDirectory

/-- The place of a file that is to be written: its directory is there, and it is
no directory itself. -/
def writable (t : FileTree) (cwd : Place) (path : String) : Except FileError Place := do
  let p ← t.locate cwd path
  if Path.meansDirectory path then .error .isDirectory
  else if t.hasDirectory p then .error .isDirectory
  else if t.hasDirectory p.dropLast then .ok p
  else .error .missing

/-- The tree with a file written, new or over an old one. -/
def write (t : FileTree) (cwd : Place) (path : String) (content : ByteArray) :
    Except FileError FileTree := do
  return t.set (← t.writable cwd path) (.file content)

/-- The tree with a file under another name, in place of a file of that name. -/
def rename (t : FileTree) (cwd : Place) (source target : String) : Except FileError FileTree := do
  match ← t.find cwd source with
  | (_, .directory) => .error .isDirectory
  | (p, .file content) =>
    let q ← t.writable cwd target
    return (t.unset p).set q (.file content)

/-- The tree without a file. -/
def remove (t : FileTree) (cwd : Place) (path : String) : Except FileError FileTree := do
  match ← t.find cwd path with
  | (_, .directory) => .error .isDirectory
  | (p, .file _) => return t.unset p

/-- The tree with a new directory. -/
def makeDirectory (t : FileTree) (cwd : Place) (path : String) : Except FileError FileTree := do
  let p ← t.locate cwd path
  if (t.at? p).isSome then .error .present
  else if t.hasDirectory p.dropLast then .ok (t.set p .directory)
  else .error .missing

/-- The tree with a directory and all above it that were missing, and whether
that succeeded; directories made before a failure stay. -/
def makeDirectoriesFrom (t : FileTree) (cwd : Place) :
    Nat → String → Except FileError Unit × FileTree
  | 0, _ => (.error .missing, t)
  | fuel + 1, path =>
    if path.isEmpty then (.ok (), t)
    else
      match t.makeDirectory cwd path with
      | .ok t' => (.ok (), t')
      | .error .missing =>
        match Path.parent? path with
        | none => (.error .missing, t)
        | some above =>
          match t.makeDirectoriesFrom cwd fuel above with
          | (.error e, t') => (.error e, t')
          | (.ok (), t') =>
            match t'.makeDirectory cwd path with
            | .ok t'' => (.ok (), t'')
            | .error e => (if t'.isDirectory cwd path then .ok () else .error e, t')
      | .error e => (if t.isDirectory cwd path then .ok () else .error e, t)

/-- The tree with a directory and all above it that were missing. -/
def makeDirectories (t : FileTree) (cwd : Place) (path : String) :
    Except FileError Unit × FileTree :=
  t.makeDirectoriesFrom cwd ((Path.names path).length + 1) path

/-- The names of what a directory holds. -/
def list (t : FileTree) (cwd : Place) (path : String) : Except FileError (List String) := do
  match ← t.find cwd path with
  | (_, .file _) => .error .notDirectory
  | (p, .directory) =>
    return t.entries.keys.filterMap fun q => if q.dropLast = p then q.getLast? else none

end FileTree

end Ninefold
