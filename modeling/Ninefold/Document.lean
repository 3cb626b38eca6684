import Ninefold.Segments
import Ninefold.Weave

/-!
# Documents

A document is a text and the delimiters it is read by. An edit does not patch
the text: it cuts the whole of it, changes one cell and weaves the cells anew.
So an edit also leaves out structure that holds nothing; what follows such
structure keeps its place.
-/

namespace Ninefold

/-- A text with the delimiter set to read it by. -/
structure Document where
  raw : Text
  delimiters : Delimiters
deriving DecidableEq

namespace Document

/-- The document of a text under the standard delimiters. -/
def ofText (t : Text) : Document := ⟨t, .standard⟩

/-- The document cut into its segments. -/
def segments (doc : Document) : Segments := .ofText doc.delimiters doc.raw

/-- The scrolls with text, in document order. -/
def scrolls (doc : Document) : List Scroll := doc.segments.scrolls

/-- The texts by coordinate. -/
def cells (doc : Document) : Cells := doc.segments.cells

/-- The text at a coordinate; none where the document has no such place. -/
def select (doc : Document) (c : Coordinate) : Option Text := doc.segments.text? c

/-- The document of the same delimiters whose cells are given. -/
def ofCells (doc : Document) (cells : Cells) : Document :=
  { doc with raw := weave doc.delimiters cells }

/-- The document with the text at a coordinate replaced, or the first character
that no scroll may hold. -/
def replace (doc : Document) (c : Coordinate) (t : Text) : Except Char Document :=
  match doc.delimiters.firstReserved? t with
  | some reserved => .error reserved
  | none => .ok (doc.ofCells (doc.cells.write c t))

/-- The document with a text put after the one at a coordinate. -/
def append (doc : Document) (c : Coordinate) (t : Text) : Except Char Document :=
  match doc.delimiters.firstReserved? t with
  | some reserved => .error reserved
  | none => doc.replace c ((doc.select c).getD [] ++ t)

/-- The document without the text at a coordinate. -/
def remove (doc : Document) (c : Coordinate) : Document := doc.ofCells (doc.cells.erase c)

/-- The document with the same scrolls and no structure that holds nothing. -/
def normalize (doc : Document) : Document := doc.ofCells doc.cells

/-- What there is to remark on reading the document. -/
def readingNote (doc : Document) : Note := doc.segments.note doc.raw

end Document

end Ninefold
