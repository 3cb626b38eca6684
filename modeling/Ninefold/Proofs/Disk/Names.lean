import Mathlib
import Ninefold.Catalog.Disk
import Ninefold.Proofs.Ident
import Ninefold.Proofs.Path

/-!
# The names of a store's files

The index, the texts and what is written aside before it takes their place have
plain names. Texts of different identifiers have different names, none of them
that of the index; only what is written aside is hidden, its name beginning
with a point. The name under which a text is written aside is the longest.
-/

namespace Ninefold.Disk

/-- The name of the index. -/
def indexName : String := "data.json"

/-- The name under which the content of a file is written aside. -/
def asideName (name : String) (id : Ident) : String := "." ++ name ++ "-" ++ id.asString ++ ".tmp"

/-- A name that begins with a point, as all do that are written aside. -/
def Hidden (name : String) : Prop := name.toList.head? = some '.'

/-! ## Plain names -/

theorem toList_textName (id : Ident) :
    (textName id).toList =
      ['p', 'h', 'e', 'x', 't', '-'] ++ (id.text ++ ['.', 'p', 'h', 'e', 'x', 't']) := by
  simp [textName, Ident.asString, Text.asString]

theorem toList_asideName (name : String) (id : Ident) :
    (asideName name id).toList =
      '.' :: (name.toList ++ '-' :: (id.text ++ ['.', 't', 'm', 'p'])) := by
  simp [asideName, Ident.asString, Text.asString]

theorem nameChar_of_mem_text {id : Ident} {c : Char} (h : c ∈ id.text) : Path.NameChar c := by
  have hletter : ∀ d : Fin 16, Path.NameChar (Ident.letter d) := by decide
  rcases Ident.mem_text h with rfl | ⟨d, rfl⟩
  · decide
  · exact hletter d

theorem nameChar_textName (id : Ident) : ∀ c ∈ (textName id).toList, Path.NameChar c := by
  have hfront : ∀ c ∈ ['p', 'h', 'e', 'x', 't', '-'], Path.NameChar c := by simp [Path.NameChar]
  have hback : ∀ c ∈ ['.', 'p', 'h', 'e', 'x', 't'], Path.NameChar c := by simp [Path.NameChar]
  intro c hc
  rw [toList_textName, List.mem_append, List.mem_append] at hc
  rcases hc with hc | hc | hc
  · exact hfront c hc
  · exact nameChar_of_mem_text hc
  · exact hback c hc

theorem length_textName (id : Ident) : (textName id).toList.length = 48 := by
  rw [toList_textName, List.length_append, List.length_append, id.length_text]
  rfl

theorem plain_textName (id : Ident) : Path.Plain (textName id) :=
  Path.plain_of_nameChar (nameChar_textName id) (by rw [length_textName]; decide)
    (by rw [length_textName]; decide)

theorem toList_indexName : indexName.toList = ['d', 'a', 't', 'a', '.', 'j', 's', 'o', 'n'] := rfl

theorem nameChar_indexName : ∀ c ∈ indexName.toList, Path.NameChar c := by
  simp [toList_indexName, Path.NameChar]

theorem plain_indexName : Path.Plain indexName :=
  Path.plain_of_nameChar nameChar_indexName (by decide) (by decide)

/-- The name of the file of settings. -/
def settingsName : String := "config.json"

theorem plain_settingsName : Path.Plain settingsName :=
  Path.plain_of_nameChar (by simp [settingsName, Path.NameChar]) (by decide) (by decide)

section Aside

variable {name : String} (h : ∀ c ∈ name.toList, Path.NameChar c)

include h

theorem nameChar_asideName (id : Ident) : ∀ c ∈ (asideName name id).toList, Path.NameChar c := by
  have hback : ∀ c ∈ ['.', 't', 'm', 'p'], Path.NameChar c := by simp [Path.NameChar]
  intro c hc
  rw [toList_asideName, List.mem_cons, List.mem_append, List.mem_cons, List.mem_append] at hc
  rcases hc with rfl | hc | rfl | hc | hc
  · decide
  · exact h c hc
  · decide
  · exact nameChar_of_mem_text hc
  · exact hback c hc

omit h in
theorem length_asideName (id : Ident) :
    (asideName name id).toList.length = name.toList.length + 42 := by
  simp [toList_asideName, id.length_text]

theorem plain_asideName (hshort : name.toList.length ≤ 48) (id : Ident) :
    Path.Plain (asideName name id) := by
  refine Path.plain_of_nameChar (nameChar_asideName h id) ?_ ?_
  · rw [length_asideName]
    omega
  · rw [length_asideName]
    omega

end Aside

/-- Nothing is written under a longer name than a text is. -/
theorem utf8ByteSize_asideName_textName (id id' : Ident) :
    (asideName (textName id) id').utf8ByteSize = 90 := by
  rw [Path.utf8ByteSize_eq_length (nameChar_asideName (nameChar_textName id) id'),
    length_asideName, length_textName]

/-! ## Different names -/

theorem textName_injective {i j : Ident} (h : textName i = textName j) : i = j := by
  have hlists := congrArg String.toList h
  rw [toList_textName, toList_textName] at hlists
  exact Ident.text_injective (List.append_cancel_right (List.append_cancel_left hlists))

theorem textName_ne_indexName (id : Ident) : textName id ≠ indexName := by
  intro h
  have hlength := congrArg (fun s => s.toList.length) h
  rw [length_textName] at hlength
  exact absurd hlength (by decide)

theorem hidden_asideName (name : String) (id : Ident) : Hidden (asideName name id) := by
  rw [Hidden, toList_asideName]
  rfl

theorem not_hidden_textName (id : Ident) : ¬ Hidden (textName id) := by
  rw [Hidden, toList_textName]
  exact (by decide : ¬ some 'p' = some '.')

theorem not_hidden_indexName : ¬ Hidden indexName := by
  unfold Hidden
  decide

theorem not_hidden_settingsName : ¬ Hidden settingsName := by
  unfold Hidden
  decide

/-! ## The names of a store -/

/-- A name that a store puts a file in place under. -/
def StoreName (name : String) : Prop := name = indexName ∨ ∃ id, name = textName id

theorem storeName_indexName : StoreName indexName := .inl rfl

theorem storeName_textName (id : Ident) : StoreName (textName id) := .inr ⟨id, rfl⟩

namespace StoreName

variable {name : String} (h : StoreName name)

include h

theorem plain : Path.Plain name := by
  rcases h with rfl | ⟨id, rfl⟩
  · exact plain_indexName
  · exact plain_textName id

theorem not_hidden : ¬ Hidden name := by
  rcases h with rfl | ⟨id, rfl⟩
  · exact not_hidden_indexName
  · exact not_hidden_textName id

/-- What is written aside for a file of a store has a plain name too. -/
theorem plain_aside (id : Ident) : Path.Plain (asideName name id) := by
  rcases h with rfl | ⟨id', rfl⟩
  · exact plain_asideName nameChar_indexName (by decide) id
  · exact plain_asideName (nameChar_textName id') (by rw [length_textName]) id

end StoreName

end Ninefold.Disk
