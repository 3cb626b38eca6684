import Ninefold.Script
import Ninefold.Stored

/-!
# A catalog on disk

A directory with one file of text for each document, named for its identifier,
and an index of the records. Every file is written aside first and then put in
its place, and the text goes before the index, so that the index never names a
text that is not there as a whole.
-/

namespace Ninefold

namespace Disk

/-- The name of the file of a document's text. -/
def textName (id : Ident) : String := "phext-" ++ id.asString ++ ".phext"

/-- The path of the index in a store's directory. -/
def indexPath (root : String) : String := Path.child root "data.json"

/-- The path of a document's text in a store's directory. -/
def textPath (root : String) (id : Ident) : String := Path.child root (textName id)

/-- A text put into a file of a store, whole or not at all. -/
def replaceFile (root name : String) (t : Text) : Act Unit := do
  let id ← Act.send .newId
  let aside := Path.child root ("." ++ name ++ "-" ++ id.asString ++ ".tmp")
  Act.writeText aside t
  Act.file (Script.send (.rename aside (Path.child root name)))

/-- The index of a store; empty where there is no index. -/
def loadIndex (root : String) : Act Index := do
  if ← Act.send (.isThere (indexPath root)) then
    Act.reading (Reading.whole Index.read (← Act.readText (indexPath root)))
  else
    pure .empty

/-- The index of a store replaced. -/
def saveIndex (root : String) (index : Index) : Act Unit :=
  replaceFile root "data.json" index.draft.pretty

/-- A file removed if it is there. -/
def discard (path : String) : Act Unit := do
  if ← Act.send (.isThere path) then Act.file (Script.send (.remove path))

/-- A document put into a store, in place of one of the same label. -/
def save (root : String) (s : Stored) : Act Unit := do
  unless ← Act.send (.isThere root) do
    Act.file (Script.send (.makeDirectories root))
  let r := s.record
  replaceFile root (textName r.id) s.raw
  let index ← loadIndex root
  saveIndex root (index.put r.label r)
  match index.get? r.label with
  | some old => if old.id ≠ r.id then discard (textPath root old.id)
  | none => pure ()
  Act.send (.note (.saved s.raw.byteCount r.label (textName r.id)))

/-- The document of a label, if there is one. A text that has no file is
empty. -/
def fetch? (root : String) (label : String) : Act (Option Stored) := do
  match (← loadIndex root).get? label with
  | none => return none
  | some r => do
    let path := textPath root r.id
    if ← Act.send (.isThere path) then return some ⟨r, ← Act.readText path⟩
    else return some ⟨r, []⟩

/-- The records of all documents, by the labels in them. -/
def list (root : String) : Act (List Record) := do
  if ← Act.send (.isThere root) then
    return (← loadIndex root).values.mergeSort fun a b => decide (¬ b.label < a.label)
  else
    return []

/-- A document taken out of a store. -/
def delete (root : String) (label : String) : Act Unit := do
  let index ← loadIndex root
  match index.get? label with
  | none => throw (.unknownLabel label)
  | some r => do
    saveIndex root (index.erase label)
    discard (textPath root r.id)

/-- Where the text of a document lies. -/
def path (root : String) (label : String) : Act String := do
  match (← loadIndex root).get? label with
  | none => throw (.unknownLabel label)
  | some r => return textPath root r.id

end Disk

end Ninefold
