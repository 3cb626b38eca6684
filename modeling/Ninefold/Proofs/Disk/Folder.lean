import Mathlib
import Ninefold.Proofs.Disk.Names
import Ninefold.Proofs.FileTree
import Ninefold.Proofs.Script

/-!
# The directory of a store as a folder

A folder gives the contents of the files of a store by their names. A tree has a
folder at a site if the directory of a store lies there and holds just these of
the store's files, whatever it holds besides, as long as no directory is in the
way of what the store writes aside. Acts of the store go from one folder to
another, and wherever they are cut short the tree has one of the folders on the
way.
-/

namespace Ninefold

/-! ## Texts and bytes -/

theorem Text.ofBytes?_bytes (t : Text) : Text.ofBytes? t.bytes = some t := by
  have hvalid : String.fromUTF8? t.asString.toUTF8 = some t.asString := by
    unfold String.fromUTF8?
    split
    · rfl
    · next h => exact absurd t.asString.isValidUTF8 h
  rw [Text.ofBytes?, Text.bytes, hvalid]
  exact congrArg some (Text.ofString_asString t)

theorem Act.decode_bytes (t : Text) : Act.decode (.ok t.bytes) = .ok t := by
  rw [Act.decode, Text.ofBytes?_bytes]
  rfl

namespace Disk

/-! ## Folders -/

/-- The contents of files by name. -/
abbrev Folder := String → Option ByteArray

namespace Folder

/-- The folder without files. -/
def empty : Folder := fun _ => none

/-- The folder with a file, in place of one of the same name. -/
def put (f : Folder) (name : String) (content : ByteArray) : Folder := fun other =>
  if other = name then some content else f other

/-- The folder without a file. -/
def drop (f : Folder) (name : String) : Folder := fun other =>
  if other = name then none else f other

end Folder

/-- The path that names the directory of a store, the working directory it is
followed from, and the place it leads to. -/
structure Site where
  root : String
  cwd : Place
  place : Place

/-- A tree with the directory of a store at a site, and a folder of files in
it. -/
structure Site.Has (s : Site) (t : FileTree) (f : Folder) : Prop where
  named : s.root ≠ ""
  houses : t.Houses s.cwd s.root s.place
  aside : ∀ {name}, StoreName name → ∀ id,
    t.hasDirectory (s.place ++ [asideName name id]) = false
  entries : ∀ {name}, StoreName name → t.at? (s.place ++ [name]) = (f name).map .file

namespace Site

variable {s : Site} {t : FileTree} {f g : Folder} {name : String}

/-! ## Requests on a folder -/

namespace Has

variable (h : s.Has t f)

include h

theorem isThere_root : t.isThere s.cwd s.root = true := h.houses.isThere_root h.named

/-- What has no name of the store does not count. -/
theorem congr (hfg : ∀ name, StoreName name → f name = g name) : s.Has t g :=
  ⟨h.named, h.houses, h.aside, fun hn => by rw [h.entries hn, hfg _ hn]⟩

theorem set (hdir : t.hasDirectory (s.place ++ [name]) = false) (content : ByteArray) :
    s.Has (t.set (s.place ++ [name]) (.file content)) (f.put name content) where
  named := h.named
  houses := h.houses.of_extends (FileTree.extends_set (by simp) hdir _)
  aside hother id := FileTree.hasDirectory_set_file (by simp) (h.aside hother id) content
  entries {other} hother := by
    rw [FileTree.at?_set (by simp), h.entries hother]
    unfold Folder.put
    by_cases hsame : other = name
    · rw [if_pos hsame, if_pos (by rw [hsame])]
      rfl
    · rw [if_neg hsame, if_neg (by simpa using hsame)]

theorem unset (hdir : t.hasDirectory (s.place ++ [name]) = false) :
    s.Has (t.unset (s.place ++ [name])) (f.drop name) where
  named := h.named
  houses := h.houses.of_extends (FileTree.extends_unset (by simp) hdir)
  aside hother id := FileTree.hasDirectory_unset (by simp) (h.aside hother id)
  entries {other} hother := by
    rw [FileTree.at?_unset (by simp), h.entries hother]
    unfold Folder.drop
    by_cases hsame : other = name
    · rw [if_pos hsame, if_pos (by rw [hsame])]
      rfl
    · rw [if_neg hsame, if_neg (by simpa using hsame)]

/-- A file of another name makes no difference to the store. -/
theorem set_other (hdir : t.hasDirectory (s.place ++ [name]) = false) (hother : ¬ StoreName name)
    (content : ByteArray) : s.Has (t.set (s.place ++ [name]) (.file content)) f := by
  refine (h.set hdir content).congr fun other hn => if_neg ?_
  rintro rfl
  exact hother hn

theorem unset_other (hdir : t.hasDirectory (s.place ++ [name]) = false)
    (hother : ¬ StoreName name) : s.Has (t.unset (s.place ++ [name])) f := by
  refine (h.unset hdir).congr fun other hn => if_neg ?_
  rintro rfl
  exact hother hn

section Named

variable (hn : StoreName name)

include hn

theorem noDirectory : t.hasDirectory (s.place ++ [name]) = false := by
  unfold FileTree.hasDirectory
  rw [h.entries hn]
  cases f name <;> rfl

theorem isThere : t.isThere s.cwd (Path.child s.root name) = (f name).isSome := by
  rw [h.houses.isThere hn.plain, h.entries hn, Option.isSome_map]

variable {content : ByteArray} (hf : f name = some content)

include hf

theorem at? : t.at? (s.place ++ [name]) = some (.file content) := by
  rw [h.entries hn, hf]
  rfl

theorem read : t.read s.cwd (Path.child s.root name) = .ok content :=
  h.houses.read_file hn.plain (h.at? hn hf)

theorem isFile : t.isFile s.cwd (Path.child s.root name) = true :=
  h.houses.isFile hn.plain (h.at? hn hf)

theorem remove :
    t.remove s.cwd (Path.child s.root name) = .ok (t.unset (s.place ++ [name])) :=
  h.houses.remove hn.plain (h.at? hn hf)

end Named

end Has

/-! ## Acts on a folder -/

/-- An act comes to a result and takes one folder to another, and wherever it
is cut short the tree has a folder of certain ones. -/
def Moves {α : Type} (s : Site) (a : Act α) (f : Folder) (x : α) (g : Folder)
    (way : Folder → Prop) : Prop :=
  ∀ w : World, w.cwd = s.cwd → s.Has w.files f →
    ∃ w', a.perform w = (.ok x, w') ∧ w'.cwd = s.cwd ∧ s.Has w'.files g ∧
      ∀ t ∈ a.leaves w, ∃ f', way f' ∧ s.Has t f'

variable {α β : Type} {a : Act α} {x : α} {way way' : Folder → Prop}

theorem Moves.mono (h : s.Moves a f x g way) (hway : ∀ f', way f' → way' f') :
    s.Moves a f x g way' := by
  intro w hcwd hw
  obtain ⟨w', hrun, hcwd', hw', hleaves⟩ := h w hcwd hw
  refine ⟨w', hrun, hcwd', hw', fun t ht => ?_⟩
  obtain ⟨f', hf', hhas⟩ := hleaves t ht
  exact ⟨f', hway f' hf', hhas⟩

theorem Moves.bind {k : α → Act β} {y : β} {f' : Folder} (h : s.Moves a f x f' way)
    (hk : s.Moves (k x) f' y g way) : s.Moves (a >>= k) f y g way := by
  intro w hcwd hw
  obtain ⟨w₁, hrun, hcwd₁, hw₁, hleaves⟩ := h w hcwd hw
  obtain ⟨w₂, hrun₂, hcwd₂, hw₂, hleaves₂⟩ := hk w₁ hcwd₁ hw₁
  refine ⟨w₂, ?_, hcwd₂, hw₂, ?_⟩
  · rw [Act.perform_bind_ok hrun, hrun₂]
  · rw [Act.leaves_bind_ok hrun]
    intro t ht
    rcases List.mem_append.mp ht with ht | ht
    · exact hleaves t ht
    · exact hleaves₂ t ht

theorem moves_pure (x : α) (f : Folder) (way : Folder → Prop) : s.Moves (pure x) f x f way :=
  fun w hcwd hw => ⟨w, rfl, hcwd, hw, fun t ht => by cases ht⟩

/-- A quiet act stays where it is. -/
theorem moves_of_quiet (hq : a.AsksOnly Request.Quiet)
    (h : ∀ w : World, w.cwd = s.cwd → s.Has w.files f → (a.perform w).1 = .ok x) :
    s.Moves a f x f (· = f) := by
  intro w hcwd hw
  have hfiles := Act.files_perform hq w
  refine ⟨(a.perform w).2, Prod.ext (h w hcwd hw) rfl, (a.cwd_perform w).trans hcwd, ?_, ?_⟩
  · rwa [hfiles]
  · intro t ht
    rw [Script.eq_of_mem_visits hq ht]
    exact ⟨f, rfl, hw⟩

/-- An act that begins with a new identifier does well if it does with any. -/
theorem moves_newId_bind {k : Ident → Act β} {y : β} (hf : way f)
    (h : ∀ id, s.Moves (k id) f y g way) : s.Moves (Act.send .newId >>= k) f y g way := by
  intro w hcwd hw
  obtain ⟨w', hrun, hcwd', hw', hleaves⟩ :=
    h (.ofNat w.ids) (w.answer .newId).2 hcwd hw
  have hid : (Act.send .newId).perform w = (.ok (.ofNat w.ids), (w.answer .newId).2) := rfl
  refine ⟨w', ?_, hcwd', hw', ?_⟩
  · rw [Act.perform_bind_ok hid, hrun]
  · rw [Act.leaves_bind_ok hid]
    intro t ht
    rcases List.mem_append.mp ht with ht | ht
    · have hsame : t = w.files :=
        Script.eq_of_mem_visits (Act.asksOnly_send (r := .newId) trivial) ht
      rw [hsame]
      exact ⟨f, hf, hw⟩
    · exact hleaves t ht

/-! ## Files replaced and discarded -/

/-- A text written aside for a file of a store and renamed is put in its place
in one step. -/
theorem moves_writeText_rename (hn : StoreName name) (id : Ident) (f : Folder) (text : Text) :
    s.Moves (Act.writeText (Path.child s.root (asideName name id)) text >>= fun _ =>
        Act.file (Script.send (.rename (Path.child s.root (asideName name id))
          (Path.child s.root name))))
      f () (f.put name text.bytes) fun f' => f' = f ∨ f' = f.put name text.bytes := by
  intro w hcwd hw
  obtain ⟨aside, haside⟩ : ∃ aside, asideName name id = aside := ⟨_, rfl⟩
  have hplain : Path.Plain aside := haside ▸ hn.plain_aside id
  have hdir := hw.aside hn id
  have hidden : Hidden aside := haside ▸ hidden_asideName name id
  have hother : ¬ StoreName aside := fun h => h.not_hidden hidden
  rw [haside] at hdir ⊢
  have hwrite : ∀ content, w.files.write w.cwd (Path.child s.root aside) content =
      .ok (w.files.set (s.place ++ [aside]) (.file content)) := by
    rw [hcwd]
    exact hw.houses.write hplain hdir
  obtain ⟨mid, hmid⟩ : ∃ t, w.files.set (s.place ++ [aside]) (.file text.bytes) = t := ⟨_, rfl⟩
  have hmidHas : s.Has mid f := hmid ▸ hw.set_other hdir hother text.bytes
  have hentry : mid.at? (s.place ++ [aside]) = some (.file text.bytes) := by
    rw [← hmid, FileTree.at?_set (by simp), if_pos rfl]
  have hfile := FileTree.hasDirectory_of_file hentry
  have hrename := hmidHas.houses.rename hplain hn.plain hentry (hmidHas.noDirectory hn)
  obtain ⟨last, hlast⟩ : ∃ t, (mid.unset (s.place ++ [aside])).set (s.place ++ [name])
    (.file text.bytes) = t := ⟨_, rfl⟩
  have hlastHas : s.Has last (f.put name text.bytes) := by
    have hunset := hmidHas.unset_other hfile hother
    exact hlast ▸ hunset.set (hunset.noDirectory hn) text.bytes
  rw [hlast, ← hcwd] at hrename
  have hrun := Act.perform_writeText ((hwrite text.bytes).trans (congrArg Except.ok hmid))
  have hrun' := Act.perform_rename (w := { w with files := mid }) hrename
  refine ⟨_, (Act.perform_bind_ok hrun _).trans hrun', hcwd, hlastHas, ?_⟩
  intro t ht
  rw [Act.leaves_bind_ok hrun, List.mem_append] at ht
  rcases ht with ht | ht
  · rcases Act.mem_leaves_writeText ht with ⟨content, hcontent⟩ | ht
    · rw [hwrite] at hcontent
      cases hcontent
      exact ⟨f, .inl rfl, hw.set_other hdir hother content⟩
    · exact ⟨f, .inl rfl, ht ▸ hw⟩
  · rw [Act.leaves_rename (w := { w with files := mid }) hrename, List.mem_singleton] at ht
    exact ⟨_, .inr rfl, ht ▸ hlastHas⟩

/-- A file of a store is replaced in one step. -/
theorem moves_replaceFile (hn : StoreName name) (f : Folder) (text : Text) :
    s.Moves (replaceFile s.root name text) f () (f.put name text.bytes)
      fun f' => f' = f ∨ f' = f.put name text.bytes :=
  moves_newId_bind (.inl rfl) fun id => moves_writeText_rename hn id f text

/-- A file that may be there is gone afterwards. -/
theorem moves_discard (hn : StoreName name) (f : Folder) :
    s.Moves (discard (Path.child s.root name)) f () (f.drop name)
      fun f' => f' = f ∨ f' = f.drop name := by
  have hlook : s.Moves (Act.send (.isThere (Path.child s.root name))) f (f name).isSome f (· = f) :=
    moves_of_quiet (Act.asksOnly_send trivial) fun w hcwd hw => by
      rw [Act.perform_send]
      show Except.ok (w.files.isThere w.cwd _) = _
      rw [hcwd, hw.isThere hn]
  refine (hlook.mono fun _ => .inl).bind ?_
  cases hf : f name with
  | none =>
    have hdrop : f.drop name = f := by
      funext other
      unfold Folder.drop
      split
      · next h => rw [h, hf]
      · rfl
    rw [hdrop]
    exact moves_pure () f _
  | some content =>
    intro w hcwd hw
    have hremove := hw.remove hn hf
    rw [← hcwd] at hremove
    have hlast := hw.unset (hw.noDirectory hn)
    refine ⟨_, Act.perform_remove hremove, hcwd, hlast, fun t ht => ?_⟩
    replace ht : t ∈ (Act.file (Script.send (.remove (Path.child s.root name)))).leaves w := ht
    rw [Act.leaves_remove hremove, List.mem_singleton] at ht
    exact ⟨_, .inr rfl, ht ▸ hlast⟩

end Site

end Disk

end Ninefold
