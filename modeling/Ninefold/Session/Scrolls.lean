import Ninefold.Session

/-!
# Reading and writing scrolls
-/

namespace Ninefold.Session

/-- The text at an address. -/
def select (s : Session) (label address : Option String) : Act (Session × Reply) := do
  let request ← requested address
  let doc ← s.fetch label
  let target := doc.target request
  doc.document.noteReading 1
  let text := doc.document.select target
  let messages : List Message :=
    if text.isNone then [⟨.info, "No scroll at " ++ target.address⟩] else []
  return (s, { Reply.empty with messages, selected := some ⟨target, text⟩ })

/-- A text put after the one at an address. -/
def insert (s : Session) (pen : Pen) (label address : Option String) (t : Text) :
    Act (Session × Reply) := do
  let request ← requested address
  let doc ← s.fetchOrStart label
  let target := doc.target request
  let after ← Act.edited (pen.append doc.document target t)
  doc.document.noteReading 2
  let s ← s.save ((doc.withText after.raw (← Act.send .now)).moveTo target)
  return (s, .success ("Inserted " ++ t.inBytes ++ " at " ++ target.address))

/-- A text put in place of the one at an address. -/
def update (s : Session) (pen : Pen) (label address : Option String) (t : Text) :
    Act (Session × Reply) := do
  let request ← requested address
  let doc ← s.fetchOrStart label
  let target := doc.target request
  let after ← Act.edited (pen.replace doc.document target t)
  doc.document.noteReading 1
  let s ← s.save ((doc.withText after.raw (← Act.send .now)).moveTo target)
  return (s, .success ("Updated " ++ t.inBytes ++ " at " ++ target.address))

/-- The text at an address taken out. -/
def delete (s : Session) (pen : Pen) (label address : Option String) :
    Act (Session × Reply) := do
  let request ← requested address
  let doc ← s.fetch label
  let target := doc.target request
  let removed := (doc.document.select target).getD []
  let after := pen.remove doc.document target
  doc.document.noteReading 2
  let s ← s.save (doc.withText after.raw (← Act.send .now))
  return (s, .success ("Removed " ++ Text.inBytes removed ++ " at " ++ target.address))

/-- What is said of a document without scrolls. -/
def noScrolls (s : Session) (label : Option String) : Message :=
  ⟨.info, labelInQuotes (s.settings.resolveLabel label) ++ " has no scrolls yet"⟩

/-- All scrolls of a document. -/
def list (s : Session) (label : Option String) : Act (Session × Reply) := do
  let doc ← s.fetch label
  doc.document.noteReading 1
  let scrolls := doc.document.scrolls
  let messages := if scrolls.isEmpty then [s.noScrolls label] else []
  return (s, { Reply.empty with messages, scrolls })

/-- The headings of all scrolls of a document. -/
def contents (s : Session) (label : Option String) : Act (Session × Reply) := do
  let doc ← s.fetch label
  doc.document.noteReading 1
  let contents := doc.document.scrolls.map Heading.ofScroll
  let messages := if contents.isEmpty then [s.noScrolls label] else []
  return (s, { Reply.empty with messages, contents })

/-- The text of a document, delimiters and all. -/
def raw (s : Session) (label : Option String) : Act (Session × Reply) := do
  let doc ← s.fetch label
  return (s, { Reply.empty with raw := some doc.raw })

/-- A document written anew without structure that holds nothing. -/
def normalize (s : Session) (label : Option String) : Act (Session × Reply) := do
  let name := labelInQuotes (s.settings.resolveLabel label)
  let doc ← s.fetch label
  let after := doc.document.normalize
  doc.document.noteReading 1
  if after.raw = doc.raw then
    return (s, .info (name ++ " is already normalized"))
  else do
    let s ← s.save (doc.withText after.raw (← Act.send .now))
    return (s, .success ("Normalized " ++ name ++ ": " ++ toString doc.raw.byteCount ++ " -> " ++
      Text.inBytes after.raw))

end Ninefold.Session
