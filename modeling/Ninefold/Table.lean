/-!
# Tables

A finite map kept as the list of its entries in ascending order of their keys,
with the order in the type. Two tables that answer every look-up alike are
therefore equal, and listing a table needs no sorting.
-/

namespace Ninefold

/-- A strict order in which any two different keys stand one before the
other. -/
class KeyOrder (κ : Type) extends LT κ where
  decidable : DecidableLT κ
  irrefl : ∀ a : κ, ¬ a < a
  trans : ∀ {a b c : κ}, a < b → b < c → a < c
  connected : ∀ {a b : κ}, ¬ a < b → ¬ b < a → a = b

instance KeyOrder.decidableLT {κ : Type} [KeyOrder κ] : DecidableLT κ := KeyOrder.decidable

instance : KeyOrder String where
  decidable := inferInstance
  irrefl := String.lt_irrefl
  trans := String.lt_trans
  connected h h' := String.le_antisymm (String.not_lt.mp h') (String.not_lt.mp h)

instance : KeyOrder (List String) where
  decidable := inferInstance
  irrefl := List.lt_irrefl
  trans := List.lt_trans
  connected h h' := List.le_antisymm (List.not_lt.mp h') (List.not_lt.mp h)

/-- A finite map from `κ` to `α`, listed by ascending key. -/
structure Table (κ α : Type) [KeyOrder κ] where
  entries : List (κ × α)
  sorted : entries.Pairwise (fun a b => a.1 < b.1)

namespace Table

variable {κ α : Type} [KeyOrder κ]

/-- The value under a key in a sorted list of entries. -/
def find (k : κ) : List (κ × α) → Option α
  | [] => none
  | e :: rest => if k < e.1 then none else if e.1 < k then find k rest else some e.2

/-- A sorted list of entries with the value under a key made what `f` makes of
the one there is. -/
def change (k : κ) (f : Option α → Option α) : List (κ × α) → List (κ × α)
  | [] => ((f none).map (k, ·)).toList
  | e :: rest =>
    if k < e.1 then ((f none).map (k, ·)).toList ++ e :: rest
    else if e.1 < k then e :: change k f rest
    else ((f (some e.2)).map (k, ·)).toList ++ rest

theorem key_of_mem_change {k : κ} {f : Option α → Option α} {es : List (κ × α)} {e : κ × α}
    (h : e ∈ change k f es) : e.1 = k ∨ e ∈ es := by
  induction es with
  | nil => simp only [change, Option.mem_toList, Option.map_eq_some_iff] at h
           obtain ⟨_, _, rfl⟩ := h
           exact .inl rfl
  | cons d rest ih =>
    simp only [change] at h
    split at h
    · simp only [List.mem_append, Option.mem_toList, Option.map_eq_some_iff] at h
      rcases h with ⟨_, _, rfl⟩ | h
      · exact .inl rfl
      · exact .inr h
    · split at h
      · rcases List.mem_cons.mp h with rfl | h
        · exact .inr (List.mem_cons_self ..)
        · exact (ih h).imp_right (List.mem_cons_of_mem _)
      · simp only [List.mem_append, Option.mem_toList, Option.map_eq_some_iff] at h
        rcases h with ⟨_, _, rfl⟩ | h
        · exact .inl rfl
        · exact .inr (List.mem_cons_of_mem _ h)

theorem sorted_change (k : κ) (f : Option α → Option α) {es : List (κ × α)}
    (h : es.Pairwise (fun a b => a.1 < b.1)) :
    (change k f es).Pairwise (fun a b => a.1 < b.1) := by
  induction es with
  | nil => simp only [change]; cases f none <;> simp
  | cons d rest ih =>
    have ⟨hd, hr⟩ := List.pairwise_cons.mp h
    simp only [change]
    split
    · next hk =>
      cases f none with
      | none => simpa using h
      | some v =>
        refine List.pairwise_cons.mpr ⟨fun e he => ?_, h⟩
        rcases List.mem_cons.mp he with rfl | he
        · exact hk
        · exact KeyOrder.trans hk (hd e he)
    · split
      · next hk =>
        refine List.pairwise_cons.mpr ⟨fun e he => ?_, ih hr⟩
        rcases key_of_mem_change he with hek | he
        · exact hek ▸ hk
        · exact hd e he
      · next hk hk' =>
        have hkd : k = d.1 := KeyOrder.connected hk hk'
        cases f (some d.2) with
        | none => simpa using hr
        | some v => exact List.pairwise_cons.mpr ⟨fun e he => hkd ▸ hd e he, hr⟩

/-- The table without entries. -/
def empty : Table κ α := ⟨[], .nil⟩

instance : Inhabited (Table κ α) := ⟨empty⟩

/-- The value under a key. -/
def get? (t : Table κ α) (k : κ) : Option α := find k t.entries

/-- Whether a key has a value. -/
def contains (t : Table κ α) (k : κ) : Bool := (t.get? k).isSome

/-- The table with the value under a key made what `f` makes of the one there
is, and all else as it was. -/
def alter (t : Table κ α) (k : κ) (f : Option α → Option α) : Table κ α :=
  ⟨change k f t.entries, sorted_change k f t.sorted⟩

/-- The table with a value under a key. -/
def put (t : Table κ α) (k : κ) (v : α) : Table κ α := t.alter k fun _ => some v

/-- The table with a value under a key that had none. -/
def putNew (t : Table κ α) (k : κ) (v : α) : Table κ α := t.alter k fun old => some (old.getD v)

/-- The table without a key. -/
def erase (t : Table κ α) (k : κ) : Table κ α := t.alter k fun _ => none

/-- The table of a list of entries; of several under one key the last counts. -/
def ofList (es : List (κ × α)) : Table κ α := es.foldr (fun e t => t.putNew e.1 e.2) empty

/-- The keys, in order. -/
def keys (t : Table κ α) : List κ := t.entries.map (·.1)

/-- The values, in the order of their keys. -/
def values (t : Table κ α) : List α := t.entries.map (·.2)

end Table

end Ninefold
