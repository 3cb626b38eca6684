import Ninefold.Json

/-!
# Reading JSON

Each reader takes a beginning off a text and returns what it read with the rest
of the text, or no rest where the text breaks off. A number never begins with a
needless zero, a string holds no bare control character, and no comma stands
before a closing bracket.
-/

namespace Ninefold.Json

/-- The four characters that may stand between the signs of a JSON text. -/
def isSpace (c : Char) : Bool := c == ' ' || c == '\n' || c == '\t' || c == '\r'

/-- A text from its first character that is no space. -/
def skip (t : Text) : Text := t.dropWhile isSpace

/-- The value of a hexadecimal digit. -/
def hexValue? (c : Char) : Option Nat :=
  if c.isDigit then some (c.toNat - '0'.toNat)
  else if 'a' ≤ c ∧ c ≤ 'f' then some (c.toNat - 'a'.toNat + 10)
  else if 'A' ≤ c ∧ c ≤ 'F' then some (c.toNat - 'A'.toNat + 10)
  else none

/-- The value of four hexadecimal digits. -/
def hexValue4? (a b c d : Char) : Option Nat := do
  let a ← hexValue? a
  let b ← hexValue? b
  let c ← hexValue? c
  let d ← hexValue? d
  return ((a * 16 + b) * 16 + c) * 16 + d

/-- The character that a short escape stands for. -/
def shortEscape? : Char → Option Char
  | '\x22' => some '\x22'
  | '\x5c' => some '\x5c'
  | '/' => some '/'
  | 'b' => some '\x08'
  | 'f' => some '\x0c'
  | 'n' => some '\n'
  | 'r' => some '\r'
  | 't' => some '\t'
  | _ => none

/-- The code units of a string after its opening quote, and the rest of the
text after the closing one. -/
def units? : Text → Option (List Nat × Text)
  | [] => none
  | '\x22' :: rest => some ([], rest)
  | '\x5c' :: 'u' :: a :: b :: c :: d :: rest =>
    match hexValue4? a b c d with
    | some n => (units? rest).map fun (us, r) => (n :: us, r)
    | none => none
  | '\x5c' :: e :: rest =>
    match shortEscape? e with
    | some c => (units? rest).map fun (us, r) => (c.toNat :: us, r)
    | none => none
  | c :: rest =>
    if c.toNat < 0x20 || c == '\x5c' then none
    else (units? rest).map fun (us, r) => (c.toNat :: us, r)

/-- The text of code units in which every high surrogate is followed by a low
one and no low one stands alone. -/
def ofUnits? : List Nat → Option Text
  | [] => some []
  | n :: rest =>
    if 0xd800 ≤ n ∧ n < 0xdc00 then
      match rest with
      | m :: rest' =>
        if 0xdc00 ≤ m ∧ m < 0xe000 then
          (ofUnits? rest').map
            (Char.ofNat (0x10000 + (n - 0xd800) * 0x400 + (m - 0xdc00)) :: ·)
        else none
      | [] => none
    else if 0xdc00 ≤ n ∧ n < 0xe000 then none
    else (ofUnits? rest).map (Char.ofNat n :: ·)

/-- The digits a text begins with, at least one, and the rest. -/
def digits? (t : Text) : Option (Text × Text) :=
  if (t.takeWhile Char.isDigit).isEmpty then none
  else some (t.takeWhile Char.isDigit, t.dropWhile Char.isDigit)

/-- The whole part of a number: a zero alone, or digits that begin otherwise. -/
def wholePart? : Text → Option (Text × Text)
  | '0' :: rest => some (['0'], rest)
  | t => digits? t

/-- The rest of a text after a fraction, if one begins it, and whether it did. -/
def afterFraction? : Text → Option (Bool × Text)
  | '.' :: rest => (digits? rest).map fun (_, r) => (true, r)
  | t => some (false, t)

/-- The text after the sign of an exponent. -/
def afterSign : Text → Text
  | '+' :: rest => rest
  | '-' :: rest => rest
  | t => t

/-- The rest of a text after an exponent, if one begins it, and whether it did. -/
def afterExponent? : Text → Option (Bool × Text)
  | c :: rest =>
    if c == 'e' || c == 'E' then (digits? (afterSign rest)).map fun (_, r) => (true, r)
    else some (false, c :: rest)
  | [] => some (false, [])

/-- A number without its sign. -/
def unsigned? (negative : Bool) (t : Text) : Option (Json × Text) := do
  let (whole, t) ← wholePart? t
  let (fraction, t) ← afterFraction? t
  let (exponent, t) ← afterExponent? t
  let plain := !negative && !fraction && !exponent
  return (.number (if plain then some (Nat.ofDigitChars 10 whole 0) else none), t)

/-- A number. -/
def number? : Text → Option (Json × Text)
  | '-' :: rest => unsigned? true rest
  | t => unsigned? false t

/-- A value whose letters are given, if a text begins with them. -/
def word (letters : Text) (value : Json) (t : Text) : Json × Option Text :=
  if letters.isPrefixOf t then (value, some (t.drop letters.length)) else (.broken, none)

mutual

/-- The value a text begins with. Every call takes a character off the text or
comes straight after one that did, so the fuel of `parse` does not run out. -/
def value : Nat → Text → Json × Option Text
  | 0, _ => (.broken, none)
  | fuel + 1, t =>
    match skip t with
    | [] => (.broken, none)
    | '\x22' :: rest =>
      match units? rest with
      | some (us, r) => (.string (ofUnits? us), some r)
      | none => (.broken, none)
    | '[' :: rest =>
      match skip rest with
      | ']' :: r => (.array [], some r)
      | _ =>
        let (vs, r) := items fuel rest
        (.array vs, r)
    | '\x7b' :: rest =>
      match skip rest with
      | '\x7d' :: r => (.object [], some r)
      | _ =>
        let (ms, r) := members fuel rest
        (.object ms, r)
    | 'n' :: rest => word ['u', 'l', 'l'] .null rest
    | 't' :: rest => word ['r', 'u', 'e'] (.bool true) rest
    | 'f' :: rest => word ['a', 'l', 's', 'e'] (.bool false) rest
    | t' =>
      match number? t' with
      | some (v, r) => (v, some r)
      | none => (.broken, none)

/-- The items of an array, of which there is at least one, and its closing
bracket. -/
def items : Nat → Text → List Json × Option Text
  | 0, _ => ([.broken], none)
  | fuel + 1, t =>
    match value fuel t with
    | (v, none) => ([v], none)
    | (v, some r) =>
      match skip r with
      | ']' :: r' => ([v], some r')
      | ',' :: r' =>
        let (vs, r'') := items fuel r'
        (v :: vs, r'')
      | _ => ([v, .broken], none)

/-- The members of an object, of which there is at least one, and its closing
brace. -/
def members : Nat → Text → List (Option Text × Json) × Option Text
  | 0, _ => ([(none, .broken)], none)
  | fuel + 1, t =>
    match skip t with
    | '\x22' :: rest =>
      match units? rest with
      | none => ([(none, .broken)], none)
      | some (us, r) =>
        let key := ofUnits? us
        match skip r with
        | ':' :: r' =>
          match value fuel r' with
          | (v, none) => ([(key, v)], none)
          | (v, some r'') =>
            match skip r'' with
            | '\x7d' :: rest' => ([(key, v)], some rest')
            | ',' :: rest' =>
              let (ms, last) := members fuel rest'
              ((key, v) :: ms, last)
            | _ => ([(key, v), (none, .broken)], none)
        | _ => ([(key, .broken)], none)
    | _ => ([(none, .broken)], none)

end

/-- The tree of a text, and whether nothing but space stands after it. -/
def parse (t : Text) : Json × Bool :=
  match value (2 * t.length + 2) t with
  | (v, none) => (v, false)
  | (v, some rest) => (v, (skip rest).isEmpty)

end Ninefold.Json
