import Ninefold.Note

/-!
# Scrolls

A scroll is the text at one coordinate. A list of scrolls in document order and
a table from coordinates to texts are two views of the same content.
-/

namespace Ninefold

/-- A text and where it lies. -/
structure Scroll where
  place : Coordinate
  text : Text
deriving DecidableEq

namespace Scroll

/-- The scroll as an entry of a table. -/
def entry (s : Scroll) : Coordinate × Text := (s.place, s.text)

/-- The scroll of a table's entry. -/
def ofEntry (e : Coordinate × Text) : Scroll := ⟨e.1, e.2⟩

/-- Whether the scroll has any text. -/
def written (s : Scroll) : Bool := !s.text.isEmpty

end Scroll

/-- The texts of a document by coordinate. -/
abbrev Cells := Table Coordinate Text

namespace Cells

/-- The cells of a list of scrolls; the last at a coordinate counts. -/
def ofScrolls (ss : List Scroll) : Cells := Table.ofList (ss.map Scroll.entry)

/-- The scrolls of a table, in document order. -/
def scrolls (cells : Cells) : List Scroll := cells.entries.map Scroll.ofEntry

/-- The cells with a text at a coordinate, where an empty text is none. -/
def write (cells : Cells) (c : Coordinate) (t : Text) : Cells :=
  if t.isEmpty then cells.erase c else cells.put c t

end Cells

end Ninefold
