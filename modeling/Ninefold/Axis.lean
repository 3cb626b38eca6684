import Ninefold.Text.Blank

/-!
# The nine axes

A document branches nine times between the whole and a scroll. The axes are
numbered from the coarsest, `library`, to the finest, `scroll`; an address, a
delimiter set and a position all list them in that order.
-/

namespace Ninefold

/-- One level of the hierarchy, coarsest first. -/
inductive Axis where
  | library
  | shelf
  | series
  | collection
  | volume
  | book
  | chapter
  | sect
  | scroll
deriving DecidableEq, Repr

namespace Axis

/-- The nine axes, coarsest first. -/
def all : List Axis :=
  [.library, .shelf, .series, .collection, .volume, .book, .chapter, .sect, .scroll]

/-- The place of an axis in `all`. -/
def index : Axis → Nat
  | .library => 0
  | .shelf => 1
  | .series => 2
  | .collection => 3
  | .volume => 4
  | .book => 5
  | .chapter => 6
  | .sect => 7
  | .scroll => 8

/-- The next axis towards `scroll`. -/
def finer : Axis → Option Axis
  | .library => some .shelf
  | .shelf => some .series
  | .series => some .collection
  | .collection => some .volume
  | .volume => some .book
  | .book => some .chapter
  | .chapter => some .sect
  | .sect => some .scroll
  | .scroll => none

/-- The next axis towards `library`. -/
def coarser : Axis → Option Axis
  | .library => none
  | .shelf => some .library
  | .series => some .shelf
  | .collection => some .series
  | .volume => some .collection
  | .book => some .volume
  | .chapter => some .book
  | .sect => some .chapter
  | .scroll => some .sect

/-- The name of an axis as users read and write it. -/
def name : Axis → String
  | .library => "library"
  | .shelf => "shelf"
  | .series => "series"
  | .collection => "collection"
  | .volume => "volume"
  | .book => "book"
  | .chapter => "chapter"
  | .sect => "section"
  | .scroll => "scroll"

/-- The lower case letter of a character, as far as an axis name can tell: the
Kelvin sign is the one character outside ASCII whose lower case is an ASCII
letter. -/
def fold (c : Char) : Char := if c = '\u212a' then 'k' else c.toLower

/-- The axis of a name, in letters of either case and with blanks around it. -/
def ofName? (s : String) : Option Axis :=
  let wanted := Text.asString ((Text.ofString s).trim.map fold)
  all.find? (·.name == wanted)

@[simp] theorem mem_all (a : Axis) : a ∈ all := by cases a <;> decide

@[simp] theorem length_all : all.length = 9 := rfl

theorem getElem?_all_index (a : Axis) : all[a.index]? = some a := by cases a <;> rfl

theorem index_lt (a : Axis) : a.index < 9 := by cases a <;> decide

theorem index_injective {a b : Axis} (h : a.index = b.index) : a = b := by
  have ha := getElem?_all_index a
  rw [h, getElem?_all_index b] at ha
  exact (Option.some.inj ha).symm

end Axis

end Ninefold
