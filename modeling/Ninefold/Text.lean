/-!
# Text

The text of documents and scrolls is a list of characters, so that a rule
about it is a rule about a list. Labels, paths and messages stay `String`s;
the functions here pass between the two and to the bytes a file holds.
-/

namespace Ninefold

/-- The characters of a document, of one scroll or of one piece of either. -/
abbrev Text := List Char

namespace Text

/-- The characters of a string. -/
def ofString (s : String) : Text := s.toList

/-- The string with these characters. -/
def asString (t : Text) : String := String.ofList t

/-- The number of bytes the text takes in UTF-8. -/
def byteCount (t : Text) : Nat := t.asString.utf8ByteSize

/-- The UTF-8 bytes of the text. -/
def bytes (t : Text) : ByteArray := t.asString.toUTF8

/-- The text with these UTF-8 bytes, if they are UTF-8. -/
def ofBytes? (b : ByteArray) : Option Text := (String.fromUTF8? b).map ofString

/-- The number of lines: one more than the line feeds, which part lines and
never end one. -/
def lineCount (t : Text) : Nat := t.count '\n' + 1

@[simp] theorem asString_ofString (s : String) : (ofString s).asString = s :=
  String.ofList_toList

@[simp] theorem ofString_asString (t : Text) : ofString t.asString = t :=
  String.toList_ofList

end Text

end Ninefold
