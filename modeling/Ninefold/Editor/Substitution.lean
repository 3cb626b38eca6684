import Ninefold.Text

/-!
# Substitutions

The command `s/pattern/replacement/` on a line, with a `g` after it if it is to
replace all that is found. A pattern is a row of characters, dots for any
character and bracketed sets, each of which may be repeated by a star, between
the marks for the start and the end of the line. In the replacement an
ampersand stands for what was found.
-/

namespace Ninefold

namespace Substitution

/-- One place of a pattern: the characters it takes, once or any number of
times. -/
structure Item where
  takes : Char → Bool
  repeated : Bool

/-- A pattern, and whether it is bound to the ends of a line. -/
structure Pattern where
  atStart : Bool
  items : List Item
  atEnd : Bool

/-- A command to replace what a pattern finds, once or everywhere in a line. -/
structure Command where
  pattern : Pattern
  replacement : Text
  everywhere : Bool

/-! ## Finding -/

/-- The rest of a text after what the items take of it, the longest first. -/
def rest? (atEnd : Bool) : List Item → Text → Option Text
  | [], t => if atEnd && !t.isEmpty then none else some t
  | item :: items, t =>
    if item.repeated then
      (List.range ((t.takeWhile item.takes).length + 1)).reverse.findSome? fun n =>
        rest? atEnd items (t.drop n)
    else
      match t with
      | c :: after => if item.takes c then rest? atEnd items after else none
      | [] => none

/-- Whether items take a beginning of a text. -/
def begins (p : Pattern) (t : Text) : Bool := (rest? p.atEnd p.items t).isSome

/-- Whether a pattern is found in a text, wherever it begins. -/
def isWithin (p : Pattern) : Text → Bool
  | [] => begins p []
  | c :: t => begins p (c :: t) || isWithin p t

/-- Whether a pattern is found in a line. -/
def isFound (p : Pattern) (line : Text) : Bool :=
  if p.atStart then begins p line else isWithin p line

/-- A replacement with the found text for each ampersand. -/
def fill (found : Text) : Text → Text
  | [] => []
  | '\x5c' :: 'n' :: t => '\n' :: fill found t
  | '\x5c' :: c :: t => c :: fill found t
  | '&' :: t => found ++ fill found t
  | c :: t => c :: fill found t

/-- A line from some place on with the command carried out. An empty find right
after another find does not count. -/
def replaceFrom (cmd : Command) : Nat → (first afterFind : Bool) → Text → Text
  | 0, _, _, t => t
  | fuel + 1, first, afterFind, t =>
    let found :=
      if cmd.pattern.atStart && !first then none
      else rest? cmd.pattern.atEnd cmd.pattern.items t
    match found with
    | some after =>
      let taken := t.take (t.length - after.length)
      if taken.isEmpty then
        match t with
        | [] => if afterFind then [] else fill [] cmd.replacement
        | c :: more =>
          if afterFind then c :: replaceFrom cmd fuel false false more
          else
            let new := fill [] cmd.replacement
            if cmd.everywhere then new ++ c :: replaceFrom cmd fuel false false more
            else new ++ t
      else
        let new := fill taken cmd.replacement
        if cmd.everywhere then new ++ replaceFrom cmd fuel false true after else new ++ after
    | none =>
      match t with
      | [] => []
      | c :: more => c :: replaceFrom cmd fuel false false more

/-- A line with the command carried out. -/
def replaceLine (cmd : Command) (line : Text) : Text :=
  replaceFrom cmd (line.length + 1) true false line

/-! ## Reading -/

/-- The part of a command up to the next delimiter, and the rest after it. A
delimiter after a backslash belongs to the part. -/
def part? (delimiter : Char) : Text → Option (Text × Text)
  | [] => none
  | '\x5c' :: c :: t =>
    (part? delimiter t).map fun (p, r) =>
      (if c = delimiter then c :: p else '\x5c' :: c :: p, r)
  | c :: t =>
    if c = delimiter then some ([], t)
    else (part? delimiter t).map fun (p, r) => (c :: p, r)

/-- The members of a bracketed set. -/
def setHas : Text → Char → Bool
  | a :: '-' :: b :: more, c => (a ≤ c && c ≤ b) || setHas more c
  | a :: more, c => a == c || setHas more c
  | [], _ => false

/-- The set that a bracket begins, and the rest after the closing one. -/
def bracket? (t : Text) : Option ((Char → Bool) × Text) :=
  let (negated, t) := match t with
    | '^' :: more => (true, more)
    | _ => (false, t)
  let (first, t) := match t with
    | ']' :: more => ([']'], more)
    | _ => ([], t)
  let inner := t.takeWhile (· != ']')
  match t.drop inner.length with
  | _ :: after => some (fun c => setHas (first ++ inner) c != negated, after)
  | [] => none

/-- Items with a star taken to repeat the one before it. -/
def addItem (takes : Char → Bool) (rest : Text) : Item × Text :=
  match rest with
  | '*' :: more => (⟨takes, true⟩, more)
  | _ => (⟨takes, false⟩, rest)

/-- The characters that the next item of a pattern takes, and the rest. -/
def takes? : Text → Option ((Char → Bool) × Text)
  | [] => none
  | '.' :: t => some (fun _ => true, t)
  | '[' :: t => bracket? t
  | '\x5c' :: c :: t => some (fun d => d == c, t)
  | c :: t => some (fun d => d == c, t)

/-- The items of a pattern and whether it is bound to the end of the line. -/
def items? : Nat → Text → Option (List Item × Bool)
  | 0, _ => none
  | _ + 1, [] => some ([], false)
  | _ + 1, ['$'] => some ([], true)
  | fuel + 1, t => do
    let (takes, t) ← takes? t
    let (item, t) := addItem takes t
    let (items, atEnd) ← items? fuel t
    return (item :: items, atEnd)

/-- The pattern that a text writes. -/
def pattern? (t : Text) : Option Pattern :=
  match t with
  | '^' :: more => (items? (more.length + 1) more).map fun (items, atEnd) => ⟨true, items, atEnd⟩
  | _ => (items? (t.length + 1) t).map fun (items, atEnd) => ⟨false, items, atEnd⟩

/-- The command whose delimiter a text begins with, and the rest after it. A
pattern must not be empty. -/
def read? : Text → Option (Command × Text)
  | delimiter :: t => do
    let (pattern, t) ← part? delimiter t
    let (replacement, t) ← part? delimiter t
    guard !pattern.isEmpty
    let pattern ← pattern? pattern
    match t with
    | 'g' :: t => return (⟨pattern, replacement, true⟩, t)
    | t => return (⟨pattern, replacement, false⟩, t)
  | [] => none

end Substitution

end Ninefold
