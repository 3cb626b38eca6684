import Ninefold.Text.Columns

/-!
# Previews

A text on one line and within a number of columns. What does not fit is cut
off, and an ellipsis of one column stands for it.
-/

namespace Ninefold.Text

/-- The mark that stands for what was cut off. -/
def ellipsis : Char := '…'

/-- The longest beginning of a text whose characters, one by one, take no more
columns than there are. -/
def takeColumns : Nat → Text → Text
  | _, [] => []
  | room, c :: rest =>
    if charColumns c ≤ room then c :: takeColumns (room - charColumns c) rest else []

/-- The text itself if it fits the columns, and its beginning and an ellipsis
otherwise. -/
def truncate (width : Nat) (t : Text) : Text :=
  if t.columns ≤ width then t else takeColumns (width - 1) t ++ [ellipsis]

/-- The text with a space for every line end. -/
def flatten (t : Text) : Text := t.map fun c => if c == '\n' || c == '\r' then ' ' else c

/-- A text shown in one line of the given width. -/
def preview (t : Text) (width : Nat) : Text := truncate width (flatten t)

end Ninefold.Text
