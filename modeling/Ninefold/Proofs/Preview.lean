import Mathlib
import Ninefold.Text.Preview

/-!
# The columns of a preview

A preview is measured as a whole, read from its end, and cut by adding up the
columns its characters have one by one. The two measures are set side by side
here. What the characters to the right have begun may let the next one take
more columns than its own: a selector makes a picture of a sign one column
wide, and a pair of joined indicators pays back what it saved. `owed` counts
what may still be added in this way, and one step of the measure keeps

  columns added + owed after ≤ own columns of the character + owed before

for every character but those that `outgrow` their own columns, which are one
off. A text is then no wider than its characters together and one column for
each that outgrows, and so is a preview.
-/

namespace Ninefold.Text

/-! ## Tables of code points -/

namespace Spans

/-- The set without the intervals at its beginning that end below a code point. -/
def ahead (s : Spans) (m : Nat) : Spans := s.dropWhile fun span => span.1 ≤ m && span.2 < m

/-- Every interval of the first set lies in one of the second. -/
def within : Spans → Spans → Bool
  | [], _ => true
  | span :: rest, s' =>
    ((s'.ahead span.1).head?.any fun span' => span'.1 ≤ span.1 && span.2 ≤ span'.2)
      && within rest (s'.ahead span.1)

/-- No interval of the first set meets one of the second. -/
def apart : Spans → Spans → Bool
  | [], _ => true
  | span :: rest, s' =>
    ((s'.ahead span.1).head?.all fun span' => span.2 < span'.1) && apart rest (s'.ahead span.1)

end Spans

/-! ## Own columns -/

/-- The columns a character may still add to what has begun, beyond its own. -/
def Begun.owed : Begun → Nat
  | .joinedEven => 2
  | .quoteForm => 1
  | _ => 0

/-- The columns the next character to the left may add beyond its own. -/
def Follow.owed (f : Follow) : Nat := f.begun.owed + if f.selector = .picture then 1 else 0

/-- What a step adds and what is owed after it stay within a number of columns. -/
def Within (n : Nat) (step : Int × Follow) : Prop := step.1 + step.2.owed ≤ n

theorem Within.mono {m n : Nat} {step : Int × Follow} (h : Within m step) (hmn : m ≤ n) :
    Within n step := by
  rw [Within] at h ⊢
  omega

end Ninefold.Text
