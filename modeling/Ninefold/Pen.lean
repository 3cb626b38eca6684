import Ninefold.Document

/-!
# Pens

What documents are edited with. An operation that edits is given a pen, and a
session gives it the ordinary one; with any other the same operation tells at
which coordinates it edits.
-/

namespace Ninefold

/-- What documents are edited with. -/
structure Pen where
  replace : Document → Coordinate → Text → Except Char Document
  append : Document → Coordinate → Text → Except Char Document
  remove : Document → Coordinate → Document

/-- The pen that sessions have. -/
abbrev Pen.ordinary : Pen := ⟨Document.replace, Document.append, Document.remove⟩

end Ninefold
