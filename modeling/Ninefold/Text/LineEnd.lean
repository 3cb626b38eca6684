import Ninefold.Text

/-!
# The line end of a buffer

An editor ends the last line of what it saves, and so does a command that
prints a text. Whoever takes such a buffer for a text drops that one line end
and no more.
-/

namespace Ninefold.Text

/-- A text without its last line end, a line feed with or without a carriage
return before it. -/
def dropLineEnd (t : Text) : Text :=
  match t.reverse with
  | '\n' :: '\r' :: before => before.reverse
  | '\n' :: before => before.reverse
  | _ => t

@[simp] theorem dropLineEnd_nil : dropLineEnd [] = [] := rfl

end Ninefold.Text
