import Ninefold.Axis
import Ninefold.Position
import Ninefold.Table

/-!
# Coordinates

Where a scroll lies: one position on each axis. Coordinates are ordered as
their positions read from the coarsest axis to the finest, which is the order
in which scrolls follow each other in a document.

The steps come in two families. `advance` counts what is written in a text and
is bounded by the count of positions alone; `next`, `previous` and `successor`
move among the coordinates that an address can name.
-/

namespace Ninefold

/-- A position on each of the nine axes. -/
structure Coordinate where
  library : Position
  shelf : Position
  series : Position
  collection : Position
  volume : Position
  book : Position
  chapter : Position
  sect : Position
  scroll : Position
deriving DecidableEq

namespace Coordinate

/-- The position on an axis. -/
def position (c : Coordinate) : Axis → Position
  | .library => c.library
  | .shelf => c.shelf
  | .series => c.series
  | .collection => c.collection
  | .volume => c.volume
  | .book => c.book
  | .chapter => c.chapter
  | .sect => c.sect
  | .scroll => c.scroll

/-- The coordinate with the given positions. -/
def ofPositions (f : Axis → Position) : Coordinate :=
  ⟨f .library, f .shelf, f .series, f .collection, f .volume, f .book, f .chapter, f .sect,
    f .scroll⟩

/-- The number of the position on an axis. -/
def get (c : Coordinate) (a : Axis) : Nat := (c.position a).number

/-- The nine numbers, coarsest first. -/
def numbers (c : Coordinate) : List Nat := Axis.all.map c.get

@[simp] theorem position_ofPositions (f : Axis → Position) (a : Axis) :
    (ofPositions f).position a = f a := by cases a <;> rfl

@[simp] theorem get_ofPositions (f : Axis → Position) (a : Axis) :
    (ofPositions f).get a = (f a).number := by simp [get]

/-- Coordinates with the same number on every axis are the same. -/
theorem ext_get {c d : Coordinate} (h : ∀ a, c.get a = d.get a) : c = d := by
  have hp : ∀ a, c.position a = d.position a := fun a => Position.eq_of_number (h a)
  obtain ⟨⟩ := c
  obtain ⟨⟩ := d
  simp only [mk.injEq]
  exact ⟨hp .library, hp .shelf, hp .series, hp .collection, hp .volume, hp .book, hp .chapter,
    hp .sect, hp .scroll⟩

theorem numbers_injective {c d : Coordinate} (h : c.numbers = d.numbers) : c = d := by
  refine ext_get fun a => ?_
  simp only [numbers, Axis.all, List.map_cons, List.map_nil, List.cons.injEq, and_true] at h
  obtain ⟨h0, h1, h2, h3, h4, h5, h6, h7, h8⟩ := h
  cases a <;> assumption

theorem one_le_get (c : Coordinate) (a : Axis) : 1 ≤ c.get a := (c.position a).one_le

theorem get_le_limit (c : Coordinate) (a : Axis) : c.get a ≤ Position.limit :=
  (c.position a).le_limit

/-! ## Order -/

instance : LT Coordinate := ⟨fun c d => c.numbers < d.numbers⟩

instance : DecidableLT Coordinate := fun c d => inferInstanceAs (Decidable (c.numbers < d.numbers))

theorem lt_iff {c d : Coordinate} : c < d ↔ c.numbers < d.numbers := Iff.rfl

instance : KeyOrder Coordinate where
  decidable := inferInstance
  irrefl c := List.lt_irrefl c.numbers
  trans := List.lt_trans
  connected h h' := numbers_injective
    (List.le_antisymm (List.not_lt.mp h') (List.not_lt.mp h))

/-! ## The origin and single steps -/

/-- The first position on every axis. -/
def origin : Coordinate := ofPositions fun _ => .first

instance : Inhabited Coordinate := ⟨origin⟩

/-- The coordinate with the position on `a` replaced, the coarser ones kept and
the finer ones first again. -/
def restart (c : Coordinate) (a : Axis) (p : Position) : Coordinate :=
  ofPositions fun b =>
    if b.index < a.index then c.position b else if b = a then p else .first

/-- The first coordinate under the next sibling on `a`, as a text counts them. -/
def advance (c : Coordinate) (a : Axis) : Coordinate := c.restart a (c.position a).after

/-- The first coordinate under the next sibling on `a` that an address can
name; the last such sibling has none after it and is kept. -/
def next (c : Coordinate) (a : Axis) : Coordinate :=
  c.restart a (if c.get a < Position.lastNamed then (c.position a).after else c.position a)

/-- The first coordinate under the previous sibling on `a`; the first is kept. -/
def previous (c : Coordinate) (a : Axis) : Coordinate := c.restart a (.nearest (c.get a - 1))

/-- The coordinate with `a` and every finer axis at the first position. -/
def resetFrom (c : Coordinate) (a : Axis) : Coordinate := c.restart a .first

/-- The next coordinate that an address can name: one step on the finest axis
that is not full. -/
def successor (c : Coordinate) : Option Coordinate :=
  (Axis.all.reverse.find? (c.get · < Position.lastNamed)).map c.next

/-- The number nearest to `value` that an address can name. -/
def clamp (value : Nat) : Nat := max 1 (min value Position.lastNamed)

/-- The coordinate with the position on `a` set to the nearest that an address
can name. -/
def set (c : Coordinate) (a : Axis) (value : Nat) : Coordinate :=
  ofPositions fun b => if b = a then .nearest (clamp value) else c.position b

/-- The coordinates that an address can name. -/
def Addressable (c : Coordinate) : Prop := ∀ a, c.get a ≤ Position.lastNamed

theorem get_restart (c : Coordinate) (a b : Axis) (p : Position) :
    (c.restart a p).get b =
      if b.index < a.index then c.get b else if b = a then p.number else 1 := by
  simp only [restart, get_ofPositions]
  split
  · rfl
  · split <;> rfl

theorem get_set (c : Coordinate) (a b : Axis) (value : Nat) :
    (c.set a value).get b = if b = a then clamp value else c.get b := by
  simp only [set, get_ofPositions]
  split
  · exact Position.number_nearest_of_mem (by simp only [clamp]; omega)
      (by simp only [clamp, Position.lastNamed, Position.limit]; omega)
  · rfl

@[simp] theorem get_origin (a : Axis) : origin.get a = 1 := by simp [origin]

/-! ## Writing -/

/-- Nine numbers, joined by points within a group of three and by slashes
between the groups. -/
def address (c : Coordinate) : String :=
  let n (a : Axis) : String := toString (c.get a)
  let group (a b d : Axis) : String := ".".intercalate [n a, n b, n d]
  "/".intercalate
    [group .library .shelf .series, group .collection .volume .book, group .chapter .sect .scroll]

instance : ToString Coordinate := ⟨address⟩

end Coordinate

end Ninefold
