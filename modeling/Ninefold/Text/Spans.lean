import Ninefold.Text

/-!
# Sets of code points

A property of characters that Unicode lists in a table is kept as the list of
its intervals, in ascending order, so that a character is looked up from the
low end and given up at the first interval above it.
-/

namespace Ninefold.Text

/-- A set of code points as its closed intervals, lowest first. -/
abbrev Spans := List (Nat × Nat)

namespace Spans

/-- Whether a code point lies in one of the intervals. -/
def has : Spans → Nat → Bool
  | [], _ => false
  | (first, last) :: rest, n => n ≥ first && (n ≤ last || has rest n)

/-- Whether a character lies in one of the intervals. -/
def hasChar (s : Spans) (c : Char) : Bool := s.has c.toNat

end Spans

end Ninefold.Text
