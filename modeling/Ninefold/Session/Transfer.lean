import Ninefold.Session

/-!
# Files in and out

Whole documents and single scrolls read from files and written to them.
-/

namespace Ninefold.Session

/-- A document given the text of a file. -/
def importFile (s : Session) (label : Option String) (path : String) : Act (Session × Reply) := do
  let t ← Act.readSource path
  let doc ← s.fetchOrStart label
  let s' ← s.save (doc.withText t (← Act.send .now))
  return (s', .success ("Imported " ++ t.inBytes ++ " from " ++ path ++ " into " ++
    labelInQuotes (s.settings.resolveLabel label)))

/-- What is said of a text written to a file. -/
def wrote (t : Text) (path : String) : Reply :=
  { Reply.success ("Wrote " ++ t.inBytes ++ " to " ++ path) with paths := [path] }

/-- A document's text written to a file. -/
def exportFile (s : Session) (label : Option String) (path : String) : Act (Session × Reply) := do
  let doc ← s.fetch label
  Act.writeText path doc.raw
  return (s, wrote doc.raw path)

/-- The text of a file put in place of the one at an address. -/
def push (s : Session) (pen : Pen) (label address : Option String) (path : String) :
    Act (Session × Reply) := do
  let request ← requested address
  let t ← Act.readSource path
  let doc ← s.fetchOrStart label
  let target := doc.target request
  let after ← Act.edited (pen.replace doc.document target t)
  doc.document.noteReading 1
  let s ← s.save ((doc.withText after.raw (← Act.send .now)).moveTo target)
  return (s, .success ("Pushed " ++ t.inBytes ++ " from " ++ path ++ " to " ++ target.address))

/-- The text at an address written to a file, an empty one if there is none. -/
def pull (s : Session) (label address : Option String) (path : String) :
    Act (Session × Reply) := do
  let request ← requested address
  let doc ← s.fetch label
  let target := doc.target request
  doc.document.noteReading 1
  Act.writeText path ((doc.document.select target).getD [])
  return (s, { Reply.success ("Exported scroll at " ++ target.address ++ " to " ++ path ++ ".") with
    paths := [path] })

/-- The scrolls of a document as a JSON object by address, in document order. -/
def scrollsDraft (doc : Document) : Json.Draft :=
  .object (doc.cells.entries.map fun (c, t) => (Text.ofString c.address, .text t))

/-- The scrolls of a document as JSON, written to a file or given back. -/
def exportJson (s : Session) (label path : Option String) : Act (Session × Reply) := do
  let doc ← s.fetch label
  doc.document.noteReading 1
  let json := (scrollsDraft doc.document).pretty
  match path with
  | some p => do
    Act.writeText p json
    return (s, wrote json p)
  | none => return (s, { Reply.empty with raw := some json })

/-! ## Filling scrolls from a directory -/

/-- How far the files of a directory have been placed: the document so far, the
coordinate for the next file if one is left, where each file went, and what
there is to say. -/
structure Filling where
  document : Document
  free : Option Coordinate
  placed : List Scroll
  messages : List Message

/-- The filling before the first file. -/
def Filling.start (doc : Document) (first : Coordinate) : Filling := ⟨doc, some first, [], []⟩

/-- The filling after a file that cannot be a scroll. -/
def Filling.skip (f : Filling) (name : String) : Filling :=
  { f with messages := f.messages ++ [⟨.warning, "Skipped " ++ name ++ " (not plain text)"⟩] }

/-- The filling after a file with a text. -/
def Filling.place (f : Filling) (pen : Pen) (name : String) (t : Text) : Act Filling := do
  match f.free with
  | none => throw (.noPlaceLeft name)
  | some c => do
    Act.notes [.slurping name c]
    let after ← Act.edited (pen.replace f.document c t)
    f.document.noteReading 1
    return ⟨after, c.successor, f.placed ++ [⟨c, Text.ofString name⟩], f.messages⟩

/-- The filling after one more file. -/
def Filling.takeFile (f : Filling) (pen : Pen) (directory name : String) : Act Filling := do
  match Act.decode (← Act.send (.read (Path.child directory name))) with
  | .error _ => return f.skip name
  | .ok t =>
    if (f.document.delimiters.firstReserved? t).isSome then return f.skip name
    else f.place pen name t

/-- The filling after the files of a list. -/
def Filling.takeFiles (pen : Pen) (directory : String) : List String → Filling → Act Filling
  | [], f => pure f
  | name :: rest, f => do takeFiles pen directory rest (← f.takeFile pen directory name)

/-- The names of a directory that are files, in order. -/
def filesOf (directory : String) : List String → Act (List String)
  | [] => pure []
  | name :: rest => do
    let isFile ← Act.send (.isFile (Path.child directory name))
    let others ← filesOf directory rest
    return if isFile then name :: others else others

/-- The names in a directory that the user named. -/
def namesIn (directory : String) : Act (List String) := do
  match ← Act.send (.list directory) with
  | .ok names => return names.mergeSort fun a b => decide (¬ b < a)
  | .error e => throw (.unreadable directory e)

/-- The texts of a directory's files put at one coordinate after another, from
an address on. -/
def slurp (s : Session) (pen : Pen) (label address : Option String) (directory : String) :
    Act (Session × Reply) := do
  let request ← requested address
  let names ← filesOf directory (← namesIn directory)
  let doc ← s.fetchOrStart label
  let first := doc.target request
  let filled ← Filling.takeFiles pen directory names (.start doc.document first)
  let s' ← s.save ((doc.withText filled.document.raw (← Act.send .now)).moveTo first)
  let summary : Message :=
    ⟨.success, "Slurped " ++ toString filled.placed.length ++ " files from " ++ directory ++
      " into " ++ labelInQuotes (s.settings.resolveLabel label) ++ " at " ++ first.address⟩
  return (s', { Reply.empty with
    messages := filled.messages ++ [summary], scrolls := filled.placed })

end Ninefold.Session
