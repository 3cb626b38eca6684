import Ninefold.Text

/-!
# Blank characters

The characters that Unicode calls white space, and the two uses made of them:
taking them off both ends of a text, and parting a command into its words.
-/

namespace Ninefold.Text

/-- The characters with the Unicode property `White_Space`. -/
def isBlank (c : Char) : Bool :=
  let n := c.toNat
  (0x09 ≤ n && n ≤ 0x0d) || n == 0x20 || n == 0x85 || n == 0xa0 || n == 0x1680
    || (0x2000 ≤ n && n ≤ 0x200a) || n == 0x2028 || n == 0x2029 || n == 0x202f
    || n == 0x205f || n == 0x3000

/-- A text without the blanks it begins with. -/
def trimStart (t : Text) : Text := t.dropWhile isBlank

/-- A text without the blanks it ends with: a blank stays only if something
stays after it. -/
def trimEnd (t : Text) : Text :=
  t.foldr (fun c rest => if rest.isEmpty && isBlank c then [] else c :: rest) []

/-- A text without the blanks at either end. -/
def trim (t : Text) : Text := trimEnd (trimStart t)

/-- A text of blanks alone, the empty one included. -/
def allBlank (t : Text) : Bool := t.all isBlank

/-- The runs of characters between blanks. -/
def words (t : Text) : List Text := (t.splitOnP isBlank).filter (!·.isEmpty)

end Ninefold.Text

namespace Ninefold

/-- A string without the blanks at either end. -/
def trimmed (s : String) : String := (Text.ofString s).trim.asString

end Ninefold
