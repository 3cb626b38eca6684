/-!
# Positions

The place of a part among its siblings, counted from one. Counting stops at
the largest number that 32 bits hold: a step past it stays there.
-/

namespace Ninefold

/-- A number from one to the largest of 32 bits. -/
structure Position where
  number : Nat
  one_le : 1 ≤ number
  le_limit : number ≤ 4294967295
deriving DecidableEq

namespace Position

/-- The last position. -/
def limit : Nat := 4294967295

/-- The last position that an address can name. -/
def lastNamed : Nat := 999

/-- The position nearest to a number. -/
def nearest (n : Nat) : Position :=
  ⟨max 1 (min n 4294967295), by omega, by omega⟩

/-- The first position. -/
def first : Position := nearest 1

instance : Inhabited Position := ⟨first⟩

theorem number_nearest (n : Nat) : (nearest n).number = max 1 (min n limit) := rfl

theorem number_nearest_of_mem {n : Nat} (h : 1 ≤ n) (h' : n ≤ limit) : (nearest n).number = n := by
  simp only [number_nearest, limit] at h' ⊢
  omega

@[simp] theorem number_first : first.number = 1 := rfl

theorem eq_of_number {p q : Position} (h : p.number = q.number) : p = q := by
  cases p; cases q; simp_all

@[simp] theorem nearest_number (p : Position) : nearest p.number = p :=
  eq_of_number (number_nearest_of_mem p.one_le p.le_limit)

/-- The position after this one; the last stays. -/
def after (p : Position) : Position := nearest (p.number + 1)

theorem number_after (p : Position) : p.after.number = min (p.number + 1) limit := by
  have hlimit : 1 ≤ limit := by decide
  rw [after, number_nearest]
  omega

end Position

end Ninefold
