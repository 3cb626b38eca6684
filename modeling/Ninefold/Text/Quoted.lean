import Ninefold.Text.Unprintable

/-!
# Quoted text

A message that quotes what the user typed shows it on one line and without
doubt: between quotes, with the quote and the backslash escaped, and with every
character that would not be seen given by its number.
-/

namespace Ninefold.Text

/-- The digits of a number in base sixteen. -/
def hex (n : Nat) : Text := Nat.toDigits 16 n

/-- How a character stands between quotes of the kind `quote`. -/
def escaped (quote c : Char) : Text :=
  if c = '\x00' then ['\x5c', '0']
  else if c = '\t' then ['\x5c', 't']
  else if c = '\r' then ['\x5c', 'r']
  else if c = '\n' then ['\x5c', 'n']
  else if c = '\x5c' || c = quote then ['\x5c', c]
  else if extending.hasChar c || unprintable.hasChar c then
    ['\x5c', 'u', '\x7b'] ++ hex c.toNat ++ ['\x7d']
  else [c]

/-- A text in double quotes. -/
def quoted (t : Text) : Text := '\x22' :: t.flatMap (escaped '\x22') ++ ['\x22']

/-- A character in single quotes. -/
def quotedChar (c : Char) : Text := '\x27' :: escaped '\x27' c ++ ['\x27']

end Ninefold.Text
