import Ninefold.Axis
import Ninefold.Text.Quoted

/-!
# Delimiters

Each axis has a character of its own that parts siblings on it. The nine are
different from each other, so that a text is cut in one way only, and none is
the line feed, which belongs to the text of a scroll. Every set in use carries
both facts; `ofChars` is the one place that finds them out.
-/

namespace Ninefold

/-- Nine different characters other than the line feed, one for each axis. -/
structure Delimiters where
  char : Axis → Char
  distinct : ∀ {a b : Axis}, char a = char b → a = b
  lineFree : ∀ a : Axis, char a ≠ '\n'

namespace Delimiters

/-- Why nine characters are no delimiter set. -/
inductive Fault where
  /-- The character of an axis is the line feed. -/
  | lineFeed (axis : Axis)
  /-- Two axes have one character. -/
  | shared (char : Char) (coarser finer : Axis)
deriving DecidableEq

/-- The wording of a fault. -/
def Fault.message : Fault → String
  | .lineFeed a => "the " ++ a.name ++ " delimiter cannot be a line break"
  | .shared c a b =>
    Text.asString (Text.quotedChar c) ++ " is used for both " ++ a.name ++ " and " ++ b.name

/-- What is wrong with the character of an axis, seen from the coarser ones. -/
def faultAt? (char : Axis → Char) (b : Axis) : Option Fault :=
  if char b = '\n' then some (.lineFeed b)
  else (Axis.all.find? fun a => a.index < b.index ∧ char a = char b).map
    fun a => .shared (char b) a b

/-- The first fault of nine characters, coarsest axis first. -/
def fault? (char : Axis → Char) : Option Fault := Axis.all.findSome? (faultAt? char)

theorem lineFree_of_fault? {char : Axis → Char} (h : fault? char = none) (a : Axis) :
    char a ≠ '\n' := by
  intro hc
  have ha := List.findSome?_eq_none_iff.mp h a (Axis.mem_all a)
  simp [faultAt?, hc] at ha

theorem ne_of_fault? {char : Axis → Char} (h : fault? char = none) {a b : Axis}
    (hab : a.index < b.index) : char a ≠ char b := by
  intro hc
  have hb := List.findSome?_eq_none_iff.mp h b (Axis.mem_all b)
  simp only [faultAt?, lineFree_of_fault? h b, if_false, Option.map_eq_none_iff,
    List.find?_eq_none] at hb
  exact hb a (Axis.mem_all a) (by simp [hab, hc])

/-- The delimiter set of nine characters, or their first fault. -/
def ofChars (char : Axis → Char) : Except Fault Delimiters :=
  match h : fault? char with
  | some fault => .error fault
  | none => .ok
    { char := char
      distinct := fun {a b} hc => by
        rcases Nat.lt_trichotomy a.index b.index with hab | hab | hab
        · exact absurd hc (ne_of_fault? h hab)
        · exact Axis.index_injective hab
        · exact absurd hc.symm (ne_of_fault? h hab)
      lineFree := lineFree_of_fault? h }

/-- The control characters in use since the format was set. -/
def standardChar : Axis → Char
  | .library => '\x01'
  | .shelf => '\x1f'
  | .series => '\x1e'
  | .collection => '\x1d'
  | .volume => '\x1c'
  | .book => '\x1a'
  | .chapter => '\x19'
  | .sect => '\x18'
  | .scroll => '\x17'

/-- The delimiter set of every document that does not say otherwise. -/
def standard : Delimiters where
  char := standardChar
  distinct := fun {a b} h => by cases a <;> cases b <;> first | rfl | (revert h; decide)
  lineFree := fun a => by cases a <;> decide

instance : Inhabited Delimiters := ⟨standard⟩

/-- Two sets are equal when they give each axis the same character. -/
theorem eq_of_char {d e : Delimiters} (h : ∀ a, d.char a = e.char a) : d = e := by
  cases d; cases e
  simp only [mk.injEq]
  exact funext h

instance : DecidableEq Delimiters := fun d e =>
  if h : ∀ a ∈ Axis.all, d.char a = e.char a then
    .isTrue (eq_of_char fun a => h a (Axis.mem_all a))
  else .isFalse fun he => h fun _ _ => he ▸ rfl

/-- The nine characters, coarsest axis first. -/
def chars (d : Delimiters) : List Char := Axis.all.map d.char

/-- Whether a character is one of the nine. -/
def reserves (d : Delimiters) (c : Char) : Bool := d.chars.contains c

/-- The first character of a text that the set keeps for itself. -/
def firstReserved? (d : Delimiters) (t : Text) : Option Char := t.find? d.reserves

theorem reserves_iff {d : Delimiters} {c : Char} : d.reserves c = true ↔ ∃ a, d.char a = c := by
  simp [reserves, chars]

theorem firstReserved?_eq_none_iff {d : Delimiters} {t : Text} :
    d.firstReserved? t = none ↔ ∀ c ∈ t, ∀ a, d.char a ≠ c := by
  simp only [firstReserved?, List.find?_eq_none, reserves_iff, not_exists]

end Delimiters

end Ninefold
