import Ninefold.Editor.Substitution

/-!
# Edits of lines

A row of edits, parted by semicolons, is carried out on each line of a text in
turn. An edit is for all lines, for one of a number, for the last, or for those
that a pattern is found in; it substitutes within the line or deletes it.

The last line of a text need not have a line end, and then it has none
afterwards either.
-/

namespace Ninefold

/-- Which lines an edit is for. -/
inductive Lines where
  | all
  | number (n : Nat)
  | last
  | holding (pattern : Substitution.Pattern)

/-- What an edit does with a line. -/
inductive LineDeed where
  | substitute (command : Substitution.Command)
  | delete

/-- An edit of the lines it is for. -/
structure LineEdit where
  lines : Lines
  deed : LineDeed

namespace LineEdit

/-! ## Carrying out -/

/-- Whether an edit is for a line, given its number and whether it is the
last. -/
def covers (e : LineEdit) (number : Nat) (last : Bool) (line : Text) : Bool :=
  match e.lines with
  | .all => true
  | .number n => n == number
  | .last => last
  | .holding pattern => Substitution.isFound pattern line

/-- A line after a row of edits, if it is left. -/
def editLine (es : List LineEdit) (number : Nat) (last : Bool) (line : Text) : Option Text :=
  es.foldlM (fun t e =>
    if e.covers number last t then
      match e.deed with
      | .substitute command => some (Substitution.replaceLine command t)
      | .delete => none
    else some t) line

/-- Lines after a row of edits, the first of them with the given number. Each
comes with the line end that follows it. -/
def editLines (es : List LineEdit) : Nat → List (Text × Text) → Text
  | _, [] => []
  | number, (line, ending) :: rest =>
    (match editLine es number rest.isEmpty line with
      | some t => t ++ ending
      | none => []) ++ editLines es (number + 1) rest

/-- The lines of a text, each with its line end. -/
def linesOf (t : Text) : List (Text × Text) :=
  let pieces := t.splitOn '\n'
  let open_ := pieces.getLastD []
  pieces.dropLast.map (·, ['\n']) ++ (if open_.isEmpty then [] else [(open_, [])])

/-- A text after a row of edits. -/
def apply (es : List LineEdit) (t : Text) : Text := editLines es 1 (linesOf t)

/-! ## Reading -/

/-- The lines that an edit begins with the mark of, and the rest. -/
def lines? : Text → Option (Lines × Text)
  | '$' :: t => some (.last, t)
  | '/' :: t => do
    let (pattern, t) ← Substitution.part? '/' t
    guard !pattern.isEmpty
    return (.holding (← Substitution.pattern? pattern), t)
  | t =>
    let digits := t.takeWhile Char.isDigit
    if digits.isEmpty then some (.all, t)
    else match Nat.ofDigitChars 10 digits 0 with
      | 0 => none
      | n => some (.number n, t.drop digits.length)

/-- The deed that a text begins with, and the rest. -/
def deed? : Text → Option (LineDeed × Text)
  | 'd' :: t => some (.delete, t)
  | 's' :: t => (Substitution.read? t).map fun (command, t) => (.substitute command, t)
  | _ => none

/-- The row of edits that a text writes. Every edit takes a character off the
text, so fuel of its length and one more does not run out. -/
def readRow? : Nat → Text → Option (List LineEdit)
  | 0, _ => none
  | fuel + 1, t =>
    if t.isEmpty then some []
    else do
      let (lines, t) ← lines? t
      let (deed, t) ← deed? t
      match t with
      | [] => return [⟨lines, deed⟩]
      | ';' :: t => return ⟨lines, deed⟩ :: (← readRow? fuel t)
      | _ => none

/-- The row of edits that a text writes. -/
def row? (t : Text) : Option (List LineEdit) := readRow? (t.length + 1) t

end LineEdit

end Ninefold
