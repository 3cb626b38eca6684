import Mathlib.Data.List.Sort
import Ninefold.Table

/-!
# Look-ups in tables

What each operation of a table does to its look-ups. A key has a value exactly
when the pair is an entry, so two tables that answer every look-up alike have
the same entries, and an operation is known once its look-ups are.
-/

namespace Ninefold

namespace KeyOrder

variable {κ : Type} [KeyOrder κ]

theorem ne_of_lt {a b : κ} (h : a < b) : a ≠ b := by
  intro he
  subst he
  exact irrefl a h

theorem not_lt_of_lt {a b : κ} (h : a < b) : ¬ b < a :=
  fun h' => irrefl a (trans h h')

/-- An ascending list is known by its members. -/
theorem eq_of_mem_iff {β : Type} (key : β → κ) {xs ys : List β}
    (hx : xs.Pairwise (fun a b => key a < key b))
    (hy : ys.Pairwise (fun a b => key a < key b))
    (h : ∀ e, e ∈ xs ↔ e ∈ ys) : xs = ys := by
  have : Std.Irrefl (fun a b : β => key a < key b) := ⟨fun a => irrefl (key a)⟩
  have : Std.Antisymm (fun a b : β => key a < key b) :=
    ⟨fun _ _ hab hba => absurd hba (not_lt_of_lt hab)⟩
  exact hx.eq_of_mem_iff hy h

/-- In an ascending list each key is that of one member. -/
theorem eq_of_key_eq {β : Type} (key : β → κ) {xs : List β}
    (h : xs.Pairwise (fun a b => key a < key b)) {a b : β} (ha : a ∈ xs) (hb : b ∈ xs)
    (hkey : key a = key b) : a = b := by
  have hnodup : (xs.map key).Nodup := List.pairwise_map.mpr (h.imp ne_of_lt)
  exact List.inj_on_of_nodup_map hnodup ha hb hkey

/-- Sorting puts entries with different keys in ascending order. -/
theorem pairwise_mergeSort {β : Type} (key : β → κ) {xs : List β}
    (h : xs.Pairwise (fun a b => key a ≠ key b)) :
    (xs.mergeSort fun a b => decide (¬ key b < key a)).Pairwise (fun a b => key a < key b) := by
  let le (a b : β) : Bool := decide (¬ key b < key a)
  have htrans : ∀ a b c, le a b → le b c → le a c := by
    intro a b c hab hbc
    simp only [le, decide_eq_true_eq] at hab hbc ⊢
    intro hca
    by_cases hlt : key b < key c
    · exact hab (trans hlt hca)
    · exact hab (connected hlt hbc ▸ hca)
  have htotal : ∀ a b, le a b || le b a := by
    intro a b
    by_cases hab : key a < key b
    · simp [le, hab, not_lt_of_lt hab]
    · simp [le, hab]
  have hdistinct : (xs.mergeSort le).Pairwise (fun a b => key a ≠ key b) :=
    (List.mergeSort_perm xs le).symm.pairwise h fun hab => hab.symm
  refine ((List.pairwise_mergeSort htrans htotal xs).and hdistinct).imp ?_
  intro a b ⟨hle, hne⟩
  by_cases hlt : key a < key b
  · exact hlt
  · exact absurd (connected hlt (by simpa [le] using hle)) hne

end KeyOrder

namespace Table

variable {κ α : Type} [KeyOrder κ]

/-! ## Look-ups and entries -/

/-- A key below all keys of a list has no value in it. -/
theorem find_eq_none_of_lt {k : κ} {es : List (κ × α)} (h : ∀ e ∈ es, k < e.1) :
    find k es = none := by
  cases es with
  | nil => rfl
  | cons e rest => simp only [find, if_pos (h e (by simp))]

/-- In an ascending list a look-up needs no comparison but equality. -/
theorem find_cons [DecidableEq κ] {e : κ × α} {rest : List (κ × α)}
    (h : (e :: rest).Pairwise (fun a b => a.1 < b.1)) (k : κ) :
    find k (e :: rest) = if k = e.1 then some e.2 else find k rest := by
  have hhead : ∀ d ∈ rest, e.1 < d.1 := (List.pairwise_cons.mp h).1
  simp only [find]
  by_cases hlt : k < e.1
  · rw [if_pos hlt, if_neg (KeyOrder.ne_of_lt hlt)]
    exact (find_eq_none_of_lt fun d hd => KeyOrder.trans hlt (hhead d hd)).symm
  · rw [if_neg hlt]
    by_cases hgt : e.1 < k
    · rw [if_pos hgt, if_neg (KeyOrder.ne_of_lt hgt).symm]
    · rw [if_neg hgt, if_pos (KeyOrder.connected hlt hgt)]

theorem find_eq_some_iff {es : List (κ × α)} (h : es.Pairwise (fun a b => a.1 < b.1))
    {k : κ} {v : α} : find k es = some v ↔ (k, v) ∈ es := by
  classical
  induction es with
  | nil => simp [find]
  | cons e rest ih =>
    obtain ⟨k', v'⟩ := e
    obtain ⟨hhead, hrest⟩ := List.pairwise_cons.mp h
    rw [find_cons h]
    by_cases hk : k = k'
    · subst hk
      have hfresh : (k, v) ∉ rest := fun hm => KeyOrder.irrefl k (hhead _ hm)
      simp [hfresh, eq_comm]
    · simp [hk, ih hrest]

/-- A key has a value exactly when the pair is an entry. -/
theorem get?_eq_some_iff {t : Table κ α} {k : κ} {v : α} :
    t.get? k = some v ↔ (k, v) ∈ t.entries :=
  find_eq_some_iff t.sorted

/-- A table is known by its look-ups. -/
theorem ext_get? {t u : Table κ α} (h : ∀ k, t.get? k = u.get? k) : t = u := by
  have hmem : ∀ e, e ∈ t.entries ↔ e ∈ u.entries := by
    intro e
    rw [← get?_eq_some_iff, ← get?_eq_some_iff, h]
  have hentries := KeyOrder.eq_of_mem_iff Prod.fst t.sorted u.sorted hmem
  cases t; cases u
  simpa using hentries

@[simp] theorem get?_ofList_nil (k : κ) : (ofList ([] : List (κ × α))).get? k = none := rfl

/-! ## Look-ups after a change -/

variable [DecidableEq κ]

theorem find_change (k k' : κ) (f : Option α → Option α) {es : List (κ × α)}
    (h : es.Pairwise (fun a b => a.1 < b.1)) :
    find k' (change k f es) = if k' = k then f (find k es) else find k' es := by
  have hsorted := sorted_change k f h
  induction es with
  | nil => cases hf : f none <;> simp [change, find_cons, find, hf]
  | cons e rest ih =>
    obtain ⟨hhead, hrest⟩ := List.pairwise_cons.mp h
    simp only [change] at hsorted ⊢
    by_cases hlt : k < e.1
    · -- the key is new, in front of all others
      have hnone : find k (e :: rest) = none := by simp only [find, if_pos hlt]
      rw [if_pos hlt] at hsorted ⊢
      rw [hnone]
      cases hf : f none with
      | none => by_cases hk : k' = k <;> simp [hk, hnone]
      | some v =>
        rw [hf] at hsorted
        exact find_cons hsorted k'
    · rw [if_neg hlt] at hsorted ⊢
      by_cases hgt : e.1 < k
      · rw [if_pos hgt] at hsorted ⊢
        rw [find_cons hsorted, ih hrest (sorted_change k f hrest), find_cons h, find_cons h]
        have hne : k ≠ e.1 := (KeyOrder.ne_of_lt hgt).symm
        by_cases hk : k' = k
        · simp [hk, hne]
        · simp [hk]
      · -- the key is that of the head, whose value changes
        have hkey : k = e.1 := KeyOrder.connected hlt hgt
        have hnone : find k rest = none := find_eq_none_of_lt (hkey ▸ hhead)
        rw [if_neg hgt] at hsorted ⊢
        rw [find_cons h, find_cons h, if_pos hkey]
        cases hf : f (some e.2) with
        | none => by_cases hk : k' = k <;> simp [hk, ← hkey, hnone]
        | some v =>
          rw [hf] at hsorted
          refine (find_cons hsorted k').trans ?_
          by_cases hk : k' = k <;> simp [hk, ← hkey]

theorem get?_alter (t : Table κ α) (k k' : κ) (f : Option α → Option α) :
    (t.alter k f).get? k' = if k' = k then f (t.get? k) else t.get? k' :=
  find_change k k' f t.sorted

@[simp] theorem get?_put (t : Table κ α) (k k' : κ) (v : α) :
    (t.put k v).get? k' = if k' = k then some v else t.get? k' :=
  get?_alter t k k' _

@[simp] theorem get?_putNew (t : Table κ α) (k k' : κ) (v : α) :
    (t.putNew k v).get? k' = if k' = k then some ((t.get? k).getD v) else t.get? k' :=
  get?_alter t k k' _

@[simp] theorem get?_erase (t : Table κ α) (k k' : κ) :
    (t.erase k).get? k' = if k' = k then none else t.get? k' :=
  get?_alter t k k' _

/-! ## Tables mapped -/

section Map

variable {β : Type}

/-- The table with every value made another. -/
def map (t : Table κ α) (f : α → β) : Table κ β :=
  ⟨t.entries.map fun e => (e.1, f e.2), List.pairwise_map.mpr t.sorted⟩

omit [DecidableEq κ] in
@[simp] theorem get?_map (t : Table κ α) (f : α → β) (k : κ) :
    (t.map f).get? k = (t.get? k).map f := by
  ext v
  rw [get?_eq_some_iff, Option.map_eq_some_iff]
  constructor
  · intro h
    obtain ⟨⟨k', v'⟩, hmem, heq⟩ := List.mem_map.mp h
    obtain ⟨rfl, rfl⟩ := Prod.mk.inj heq
    exact ⟨v', get?_eq_some_iff.mpr hmem, rfl⟩
  · rintro ⟨v', hget, rfl⟩
    exact List.mem_map.mpr ⟨(k, v'), get?_eq_some_iff.mp hget, rfl⟩

omit [DecidableEq κ] in
theorem values_map (t : Table κ α) (f : α → β) : (t.map f).values = t.values.map f := by
  simp [values, map]

end Map

/-! ## Tables of lists -/

/-- Of several values under one key the last counts. -/
theorem get?_ofList_cons (k k' : κ) (v : α) (es : List (κ × α)) :
    (ofList ((k, v) :: es)).get? k' =
      if k' = k then some (((ofList es).get? k).getD v) else (ofList es).get? k' :=
  get?_putNew (ofList es) k k' v

/-- A list that is ascending already is kept. -/
theorem ofList_of_sorted {es : List (κ × α)} (h : es.Pairwise (fun a b => a.1 < b.1)) :
    ofList es = ⟨es, h⟩ := by
  apply ext_get?
  induction es with
  | nil => exact fun _ => rfl
  | cons e rest ih =>
    intro k'
    obtain ⟨hhead, hrest⟩ := List.pairwise_cons.mp h
    have hfresh : (ofList rest).get? e.1 = none := by
      rw [ih hrest]
      exact find_eq_none_of_lt hhead
    rw [get?_ofList_cons, hfresh, ih hrest]
    exact (find_cons h k').symm

end Table

end Ninefold
