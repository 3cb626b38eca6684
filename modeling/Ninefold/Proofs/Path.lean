import Mathlib
import Ninefold.Path
import Ninefold.Proofs.Text

/-!
# Names in a directory

A name without a slash, put behind the path of a directory, adds one name to
the names of the path, and as many bytes as it has.
-/

namespace Ninefold

namespace Path

/-- A name that a file can have, no longer than the names that a store gives. -/
structure Plain (name : String) : Prop where
  ne_empty : name ≠ ""
  ne_dot : name ≠ "."
  ne_dots : name ≠ ".."
  slashFree : '/' ∉ name.toList
  nulFree : '\x00' ∉ name.toList
  short : name.utf8ByteSize ≤ 90

/-- A printed character of one byte that parts no path. -/
def NameChar (c : Char) : Prop := 32 < c.toNat ∧ c.toNat < 127 ∧ c ≠ '/'

instance (c : Char) : Decidable (NameChar c) :=
  inferInstanceAs (Decidable (32 < c.toNat ∧ c.toNat < 127 ∧ c ≠ '/'))

theorem utf8Size_of_nameChar {c : Char} (h : NameChar c) : c.utf8Size = 1 := by
  have hlow : c.val.toNat < 127 := h.2.1
  have hbound : (127 : UInt32).toNat = 127 := rfl
  rw [Char.utf8Size_eq_one_iff, UInt32.le_iff_toNat_le]
  omega

theorem utf8ByteSize_eq_length {name : String} (h : ∀ c ∈ name.toList, NameChar c) :
    name.utf8ByteSize = name.toList.length := by
  have hsize : ∀ {t : Text}, (∀ c ∈ t, NameChar c) → String.utf8Len t = t.length := by
    intro t ht
    induction t with
    | nil => rfl
    | cons c t ih =>
      rw [String.utf8Len_cons, ih fun c hc => ht c (by simp [hc]),
        utf8Size_of_nameChar (ht c (by simp)), List.length_cons]
  rw [← String.ofList_toList (s := name), String.utf8ByteSize_ofList, String.toList_ofList, hsize h]

theorem plain_of_nameChar {name : String} (h : ∀ c ∈ name.toList, NameChar c)
    (hlong : 2 < name.toList.length) (hshort : name.toList.length ≤ 90) : Plain name where
  ne_empty := by
    rintro rfl
    exact absurd hlong (by decide)
  ne_dot := by
    rintro rfl
    exact absurd hlong (by decide)
  ne_dots := by
    rintro rfl
    exact absurd hlong (by decide)
  slashFree hmem := (h _ hmem).2.2 rfl
  nulFree hmem := absurd (h _ hmem).1 (by decide)
  short := by
    rw [utf8ByteSize_eq_length h]
    exact hshort

/-- What stands in front of a name in a directory. -/
def lead (root : String) : String := child root ""

theorem child_eq (root name : String) : child root name = lead root ++ name := by
  unfold lead child
  split
  · simp
  · simp

theorem toList_child (root name : String) :
    (child root name).toList = (lead root).toList ++ name.toList := by
  rw [child_eq, String.toList_append]

theorem utf8ByteSize_child (root name : String) :
    (child root name).utf8ByteSize = (lead root).utf8ByteSize + name.utf8ByteSize := by
  rw [child_eq, String.utf8ByteSize_append]

theorem utf8ByteSize_le_lead (root : String) :
    root.utf8ByteSize ≤ (lead root).utf8ByteSize := by
  unfold lead child
  split
  · simp
  · simp

/-- What leads to the names in a directory is nothing, or ends in a slash and
has the names of the directory. -/
theorem lead_cases (root : String) :
    (root = "" ∧ lead root = "") ∨
      ∃ front : Text, (lead root).toList = front ++ ['/'] ∧
        (root.toList = front ∧ front ≠ [] ∨ root.toList = front ++ ['/']) := by
  by_cases hempty : root = ""
  · exact .inl ⟨hempty, by subst hempty; rfl⟩
  refine .inr ?_
  have hisEmpty : root.isEmpty = false := by simpa [String.isEmpty_iff] using hempty
  unfold lead child
  rw [hisEmpty]
  by_cases hslash : (Text.ofString root).getLast? = some '/'
  · obtain ⟨front, hfront⟩ := List.getLast?_eq_some_iff.mp hslash
    have hroot : root.toList = front ++ ['/'] := hfront
    exact ⟨front, by simp [hslash, hroot], .inr hroot⟩
  · exact ⟨root.toList, by simp [hslash], .inl ⟨rfl, by simpa using hempty⟩⟩

/-! ## The names of a path -/

/-- The names in a text. -/
def namesOf (t : Text) : List String :=
  ((t.splitOn '/').filter (!·.isEmpty)).map Text.asString

theorem names_eq (path : String) : names path = namesOf path.toList := rfl

theorem namesOf_append_cons (a b : Text) :
    namesOf (a ++ '/' :: b) = namesOf a ++ namesOf b := by
  unfold namesOf
  rw [Text.splitOn_append, List.filter_append, List.map_append]

theorem namesOf_nil : namesOf [] = [] := rfl

section Plain

variable {name : String} (h : Plain name)

include h

theorem Plain.namesOf : namesOf name.toList = [name] := by
  have hsome : name.toList.isEmpty = false := by
    have := h.ne_empty
    simpa using this
  rw [Path.namesOf, Text.splitOn_of_not_mem h.slashFree]
  simp [hsome, Text.asString]

/-- A name in a directory is one more name behind those of the directory. -/
theorem names_child (root : String) : names (child root name) = names root ++ [name] := by
  rw [names_eq, names_eq, toList_child]
  rcases lead_cases root with ⟨hroot, hlead⟩ | ⟨front, hlead, hroot⟩
  · rw [hlead, hroot]
    exact h.namesOf
  · rw [hlead, List.append_assoc, List.singleton_append, namesOf_append_cons, h.namesOf]
    rcases hroot with ⟨hroot, -⟩ | hroot
    · rw [hroot]
    · rw [hroot, namesOf_append_cons, namesOf_nil, List.append_nil]

theorem isAbsolute_child (root : String) : isAbsolute (child root name) = isAbsolute root := by
  unfold isAbsolute Text.ofString
  rw [toList_child]
  rcases lead_cases root with ⟨hroot, hlead⟩ | ⟨front, hlead, hroot⟩
  · have hslash : (name.toList.head? == some '/') = false := by
      refine beq_eq_false_iff_ne.mpr fun hhead => h.slashFree ?_
      exact List.mem_of_mem_head? hhead
    rw [hlead, hroot]
    simpa using hslash
  · rw [hlead]
    rcases hroot with ⟨hroot, hne⟩ | hroot
    · rw [hroot]
      obtain ⟨c, rest, rfl⟩ := List.exists_cons_of_ne_nil hne
      rfl
    · rw [hroot, List.append_assoc]
      cases front <;> rfl

theorem meansDirectory_child (root : String) : meansDirectory (child root name) = false := by
  have hlast : ((Text.ofString (child root name)).splitOn '/').getLast? = some name.toList := by
    unfold Text.ofString
    rw [toList_child]
    rcases lead_cases root with ⟨hroot, hlead⟩ | ⟨front, hlead, hroot⟩
    · rw [hlead, show "".toList = ([] : List Char) from rfl, List.nil_append,
        Text.splitOn_of_not_mem h.slashFree]
      rfl
    · rw [hlead, List.append_assoc, List.singleton_append, Text.splitOn_append,
        Text.splitOn_of_not_mem h.slashFree, List.getLast?_concat]
  have hne : ∀ s : String, name ≠ s → name.toList ≠ s.toList := fun s hs heq =>
    hs (String.toList_inj.mp heq)
  have hempty := hne "" h.ne_empty
  have hdot := hne "." h.ne_dot
  have hdots := hne ".." h.ne_dots
  rw [meansDirectory, hlast]
  simp only [Bool.or_eq_false_iff, beq_eq_false_iff_ne, List.isEmpty_eq_false_iff]
  exact ⟨⟨hempty, hdot⟩, hdots⟩

theorem child_ne_empty (root : String) : child root name ≠ "" := by
  intro heq
  have := congrArg String.toList heq
  rw [toList_child] at this
  simp only [String.toList_empty, List.append_eq_nil_iff, String.toList_eq_nil_iff] at this
  exact h.ne_empty this.2

theorem contains_nul_child (root : String) :
    (Text.ofString (child root name)).contains '\x00' = (Text.ofString root).contains '\x00' := by
  have hname : name.toList.contains '\x00' = false := by simpa using h.nulFree
  unfold Text.ofString
  rw [toList_child, List.contains_append, hname, Bool.or_false]
  rcases lead_cases root with ⟨hroot, hlead⟩ | ⟨front, hlead, hroot⟩
  · rw [hlead, hroot]
  · rcases hroot with ⟨hroot, -⟩ | hroot
    · rw [hlead, hroot, List.contains_append]
      exact Bool.or_false _
    · rw [hlead, hroot]

end Plain

end Path

end Ninefold
