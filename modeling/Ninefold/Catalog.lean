import Ninefold.Catalog.Disk
import Ninefold.Catalog.Memory

/-!
# Catalogs

Documents by label, wherever they are kept. A change gives the catalog after
it: one in memory is that value, one on disk is its directory, whose files have
changed.
-/

namespace Ninefold

/-- A store of documents by label. -/
inductive Catalog where
  | memory (documents : Memory)
  | disk (root : String)

namespace Catalog

/-- The catalog with a document, in place of one of the same label. -/
def save (c : Catalog) (s : Stored) : Act Catalog :=
  match c with
  | .memory m => pure (.memory (m.save s))
  | .disk root => do
    Disk.save root s
    return .disk root

/-- The document of a label, if there is one. -/
def fetch? (c : Catalog) (label : String) : Act (Option Stored) :=
  match c with
  | .memory m => pure (m.fetch? label)
  | .disk root => Disk.fetch? root label

/-- The document of a label. -/
def fetch (c : Catalog) (label : String) : Act Stored := do
  match ← c.fetch? label with
  | some s => return s
  | none => throw (.unknownLabel label)

/-- The document of a label, or an empty one that is not yet in the catalog. -/
def fetchOrStart (c : Catalog) (label : String) : Act Stored := do
  match ← c.fetch? label with
  | some s => return s
  | none => return .fresh label (← Act.send .now) (← Act.send .newId)

/-- The records of all documents, sorted by label. -/
def list (c : Catalog) : Act (List Record) :=
  match c with
  | .memory m => pure m.list
  | .disk root => Disk.list root

/-- The catalog without a document that it has. -/
def delete (c : Catalog) (label : String) : Act Catalog :=
  match c with
  | .memory m => do return .memory (← Act.ofExcept (m.delete label))
  | .disk root => do
    Disk.delete root label
    return .disk root

/-- Where the text of a document lies. -/
def path (c : Catalog) (label : String) : Act String :=
  match c with
  | .memory m => Act.ofExcept (m.path label)
  | .disk root => Disk.path root label

end Catalog

end Ninefold
