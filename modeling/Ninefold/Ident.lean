import Ninefold.Text

/-!
# Identifiers

A document is known to its store by a number of 128 bits, written as 32
hexadecimal digits in groups of 8, 4, 4, 4 and 12. It is read with the groups
or without them, in either case, and in the grouped form also between braces or
after `urn:uuid:`.
-/

namespace Ninefold

/-- Thirty-two hexadecimal digits. -/
structure Ident where
  digits : List (Fin 16)
  length_eq : digits.length = 32
deriving DecidableEq

namespace Ident

/-- The letter of a digit. -/
def letter (d : Fin 16) : Char :=
  if d.val < 10 then Char.ofNat ('0'.toNat + d.val) else Char.ofNat ('a'.toNat + (d.val - 10))

/-- The digit of a letter of either case. -/
def digit? (c : Char) : Option (Fin 16) :=
  (List.finRange 16).find? fun d => letter d == c.toLower

/-- The identifier of a number, counted modulo 2 ^ 128. -/
def ofNat (n : Nat) : Ident :=
  ⟨(List.range 32).reverse.map fun i => ⟨n / Nat.pow 16 i % 16, Nat.mod_lt _ (by decide)⟩,
    by simp⟩

instance : Inhabited Ident := ⟨ofNat 0⟩

/-- The identifier of a list of letters, if they are 32 digits. -/
def ofLetters? (t : Text) : Option Ident :=
  match t.mapM digit? with
  | some ds => if h : ds.length = 32 then some ⟨ds, h⟩ else none
  | none => none

/-- The identifier in its written form: letters in five groups with hyphens
between them. -/
def text (i : Ident) : Text :=
  let ls := i.digits.map letter
  ls.take 8 ++ '-' :: (ls.drop 8).take 4 ++ '-' :: (ls.drop 12).take 4 ++
    '-' :: (ls.drop 16).take 4 ++ '-' :: ls.drop 20

/-- The identifier in its written form. -/
def asString (i : Ident) : String := Text.asString i.text

instance : ToString Ident := ⟨asString⟩

/-- The letters of a text in five groups with hyphens between them. -/
def ungroup? (t : Text) : Option Text :=
  match t.splitOn '-' with
  | [a, b, c, d, e] =>
    if [a, b, c, d, e].map List.length = [8, 4, 4, 4, 12] then some (a ++ b ++ c ++ d ++ e)
    else none
  | _ => none

/-- The text between braces. -/
def unbrace? : Text → Option Text
  | '\x7b' :: rest =>
    match rest.reverse with
    | '\x7d' :: inner => some inner.reverse
    | _ => none
  | _ => none

/-- The text after the name of the identifiers' name space. -/
def afterUrn? (t : Text) : Option Text :=
  let urn := Text.ofString "urn:uuid:"
  if urn.isPrefixOf t then some (t.drop urn.length) else none

/-- The identifier that a text writes. -/
def ofText? (t : Text) : Option Ident :=
  if t.length = 32 then ofLetters? t
  else (((unbrace? t).or (afterUrn? t)).getD t |> ungroup?).bind ofLetters?

@[simp] theorem digit?_letter : ∀ d : Fin 16, digit? (letter d) = some d := by decide

end Ident

end Ninefold
