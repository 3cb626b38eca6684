import Mathlib
import Ninefold.Proofs.Disk.Changes

/-!
# Changes of a store that are granted

A store changes only files of its own: the index, the texts, and what is
written aside for them. Where the system grants it every such change, a change
of the store that has read the index comes to its end: the files that it puts
in place do not touch the index that it reads again. So it can fail only while
the directory of the store is made, before any file of it is written.
-/

namespace Ninefold.Disk

/-- A path of a file of a store's own, or of one that is written aside for it. -/
def Own (root path : String) : Prop :=
  ∃ name, StoreName name ∧
    (path = Path.child root name ∨ ∃ id, path = Path.child root (asideName name id))

variable {root name : String} {w w' : World} {own : String → Prop}

theorem own_textPath (root : String) (id : Ident) : Own root (textPath root id) :=
  ⟨_, storeName_textName id, .inl rfl⟩

/-! ## What is looked up -/

/-- The index is the same where the same lies in its place. -/
theorem loadIndex_congr (hcwd : w'.cwd = w.cwd)
    (h : w'.files.shows w'.cwd (indexPath root) = w.files.shows w.cwd (indexPath root)) :
    ((loadIndex root).perform w').1 = ((loadIndex root).perform w).1 :=
  Act.perform_look_congr hcwd h (fun _ => Act.asksOnly_reading (fun _ => trivial) _) trivial

/-- The document of a label is the same where the same lies in the place of its
text. -/
theorem fetch?_congr {label : String} (hcwd : w'.cwd = w.cwd)
    (hindex : ((loadIndex root).perform w').1 = ((loadIndex root).perform w).1)
    (h : ∀ index r, ((loadIndex root).perform w).1 = .ok index → index.get? label = some r →
      w'.files.shows w'.cwd (textPath root r.id) = w.files.shows w.cwd (textPath root r.id)) :
    ((fetch? root label).perform w').1 = ((fetch? root label).perform w).1 := by
  have hfiles := Act.files_perform (quiet_loadIndex root) w
  have hfiles' := Act.files_perform (quiet_loadIndex root) w'
  have hstay := Act.cwd_perform (loadIndex root) w
  have hstay' := Act.cwd_perform (loadIndex root) w'
  unfold fetch?
  cases hload : (loadIndex root).perform w with
  | mk r w₁ =>
    cases hload' : (loadIndex root).perform w' with
    | mk r' w₁' =>
      rw [hload] at hindex h hfiles hstay
      rw [hload'] at hindex hfiles' hstay'
      obtain rfl : r' = r := hindex
      cases r' with
      | error e => rw [Act.perform_bind_error hload, Act.perform_bind_error hload']
      | ok index =>
        rw [Act.perform_bind_ok hload, Act.perform_bind_ok hload']
        cases hget : index.get? label with
        | none => rfl
        | some r =>
          refine Act.perform_look_congr (hstay'.trans (hcwd.trans hstay.symm)) ?_
            (fun _ => trivial) trivial
          rw [hfiles, hfiles', hstay, hstay']
          exact h index r rfl hget

/-- There is no index in a directory that is not there. -/
theorem loadIndex_missing (hroot : root ≠ "") (h : w.files.isThere w.cwd root = false) :
    ((loadIndex root).perform w).1 = .ok .empty := by
  have hmissing : w.files.isThere w.cwd (indexPath root) = false := by
    cases hindex : w.files.isThere w.cwd (indexPath root) with
    | false => rfl
    | true =>
      rw [FileTree.isThere_of_isThere_child plain_indexName hroot hindex] at h
      cases h
  have hlook : (Act.send (.isThere (indexPath root))).perform w = (.ok false, w) :=
    congrArg (fun b => (Except.ok b, w)) hmissing
  unfold loadIndex
  rw [Act.perform_bind_ok hlook]
  rfl

/-- The records listed are the same where the index is, also if only the
directory has been made. -/
theorem list_congr (hcwd : w'.cwd = w.cwd)
    (hindex : ((loadIndex root).perform w').1 = ((loadIndex root).perform w).1)
    (hroot : w.files.isThere w.cwd root = true → w'.files.isThere w.cwd root = true) :
    ((list root).perform w').1 = ((list root).perform w).1 := by
  have hlook : ∀ v : World, (Act.send (.isThere root)).perform v =
    (.ok (v.files.isThere v.cwd root), v) := fun _ => rfl
  have hsorted : ∀ v : World, ((loadIndex root >>= fun index => pure (index.values.mergeSort
      fun a b => decide (¬ b.label < a.label)) : Act (List Record)).perform v).1 =
      ((loadIndex root).perform v).1.map fun index => index.values.mergeSort
        fun a b => decide (¬ b.label < a.label) := by
    intro v
    rw [Act.perform_bind]
    cases ((loadIndex root).perform v).1 <;> rfl
  unfold list
  rw [Act.perform_bind_ok (hlook w), Act.perform_bind_ok (hlook w'), hcwd]
  cases hthere : w.files.isThere w.cwd root with
  | true =>
    rw [hroot hthere, if_pos rfl, hsorted, hsorted, hindex]
  | false =>
    cases hthere' : w'.files.isThere w.cwd root with
    | false => rfl
    | true =>
      rw [if_pos rfl, hsorted, hindex,
        loadIndex_missing (FileTree.ne_empty_of_isThere hthere') hthere]
      exact congrArg Except.ok List.mergeSort_nil

/-- A text put in place leaves the index as it was. -/
theorem loadIndex_replaced {id aside : Ident} {content : ByteArray} {files : FileTree}
    (hcwd : w'.cwd = w.cwd)
    (hwrite : w.files.write w.cwd (Path.child root (asideName (textName id) aside)) content =
      .ok files)
    (hrename : files.rename w.cwd (Path.child root (asideName (textName id) aside))
      (Path.child root (textName id)) = .ok w'.files) :
    ((loadIndex root).perform w').1 = ((loadIndex root).perform w).1 := by
  have haside : Path.Plain (asideName (textName id) aside) :=
    plain_asideName (nameChar_textName id) (by rw [length_textName]) aside
  obtain ⟨p, hhouses⟩ := FileTree.houses_of_write haside (utf8ByteSize_asideName_textName id aside)
    hwrite
  obtain ⟨hhouses', hothers⟩ := hhouses.replaced haside (plain_textName id) hwrite hrename
  have hne : indexName ≠ asideName (textName id) aside := fun h =>
    not_hidden_indexName (h ▸ hidden_asideName _ _)
  have hfind := hhouses.find_congr plain_indexName hhouses'
    (hothers indexName hne (textName_ne_indexName id).symm)
  refine loadIndex_congr hcwd ?_
  unfold FileTree.shows indexPath
  rw [hcwd]
  exact congrArg (fun found => found.toOption.map Prod.snd) hfind

/-! ## What succeeds -/

section Granted

variable (hown : ∀ path, Own root path → own path)

include hown

theorem replaceFile_granted (hname : StoreName name) {t : Text}
    (h : (replaceFile root name t).Granted own w) :
    ∃ w' aside files, (replaceFile root name t).perform w = (.ok (), w') ∧ w'.cwd = w.cwd ∧
      w.files.write w.cwd (Path.child root (asideName name aside)) t.bytes = .ok files ∧
      files.rename w.cwd (Path.child root (asideName name aside)) (Path.child root name) =
        .ok w'.files := by
  obtain ⟨aside, haside⟩ : ∃ aside, Ident.ofNat w.ids = aside := ⟨_, rfl⟩
  have hid : (Act.send .newId).perform w = (.ok aside, { w with ids := w.ids + 1 }) :=
    haside ▸ rfl
  unfold replaceFile at h ⊢
  rw [Act.granted_bind_ok hid] at h
  rw [Act.perform_bind_ok hid]
  obtain ⟨files, hwrite⟩ := h.2.left.write (hown _ ⟨name, hname, .inr ⟨aside, rfl⟩⟩)
  have hwritten := Act.perform_writeText hwrite
  rw [Act.granted_bind_ok hwritten] at h
  rw [Act.perform_bind_ok hwritten]
  obtain ⟨files', hrename⟩ := h.2.2.rename (hown _ ⟨name, hname, .inl rfl⟩)
  exact ⟨_, aside, files, Act.perform_rename hrename, rfl, hwrite, hrename⟩

theorem discard_granted {id : Ident} (h : (discard (textPath root id)).Granted own w) :
    ∃ w', (discard (textPath root id)).perform w = (.ok (), w') := by
  have hlook := Act.perform_send (.isThere (textPath root id)) w
  unfold discard at h ⊢
  rw [Act.granted_bind_ok hlook] at h
  rw [Act.perform_bind_ok hlook]
  split
  next hthere =>
    rw [if_pos hthere] at h
    obtain ⟨files, hremove⟩ := h.2.remove (hown _ (own_textPath root id))
    exact ⟨_, Act.perform_remove hremove⟩
  next => exact ⟨_, rfl⟩

theorem discardStale_granted {old : Option Record} {id : Ident}
    (h : (discardStale root old id).Granted own w) :
    ∃ w', (discardStale root old id).perform w = (.ok (), w') := by
  unfold discardStale at h ⊢
  cases old with
  | none => exact ⟨w, rfl⟩
  | some old =>
    by_cases hid : old.id ≠ id
    · simp only [if_pos hid] at h ⊢
      exact discard_granted hown h
    · simp only [if_neg hid]
      exact ⟨w, rfl⟩

/-- **A document is put into a store whose index can be read.** -/
theorem store_granted {index : Index} {doc : Stored}
    (hindex : ((loadIndex root).perform w).1 = .ok index)
    (h : (store root doc).Granted own w) : ∃ w', (store root doc).perform w = (.ok (), w') := by
  unfold store at h ⊢
  obtain ⟨w₁, aside, files, htext, hcwd, hwrite, hrename⟩ :=
    replaceFile_granted hown (storeName_textName doc.record.id) h.left
  obtain ⟨w₂, hload⟩ :=
    Act.exists_perform_eq ((loadIndex_replaced hcwd hwrite hrename).trans hindex)
  rw [Act.granted_bind_ok htext, Act.granted_bind_ok hload] at h
  rw [Act.perform_bind_ok htext, Act.perform_bind_ok hload]
  obtain ⟨w₃, -, -, hsaved, -⟩ := replaceFile_granted hown (.inl rfl) h.2.2.left
  have hindexed : (saveIndex root (index.put doc.record.label doc.record)).perform w₂ =
      (.ok (), w₃) := hsaved
  rw [Act.granted_bind_ok hindexed] at h
  rw [Act.perform_bind_ok hindexed]
  obtain ⟨w₄, hdiscarded⟩ := discardStale_granted hown h.2.2.2.left
  rw [Act.perform_bind_ok hdiscarded]
  exact ⟨_, rfl⟩

/-- **Saving a document fails at most where the directory of the store cannot be
made**, if the index can be read once it is made. -/
theorem makeDirectories_of_save_error {index : Index} {doc : Stored} {e : Failure}
    (hindex : ((loadIndex root).perform { w with
      files := (w.files.makeDirectories w.cwd root).2 }).1 = .ok index)
    (h : (save root doc).Granted own w) (hfails : (save root doc).perform w = (.error e, w')) :
    ∃ e', w.files.makeDirectories w.cwd root = (.error e', w'.files) := by
  have hworld := perform_makeRoot root w
  rw [save_eq] at h hfails
  cases hmade : (makeRoot root).perform w with
  | mk r w₁ =>
    cases r with
    | error e' =>
      rw [Act.perform_bind_error hmade] at hfails
      cases hfails
      exact makeDirectories_of_makeRoot_error hmade
    | ok x =>
      rw [hmade] at hworld
      obtain rfl := hworld
      rw [Act.granted_bind_ok hmade] at h
      rw [Act.perform_bind_ok hmade] at hfails
      obtain ⟨w₂, hstored⟩ := store_granted hown hindex h.2
      rw [hstored] at hfails
      cases hfails

/-- **Deleting a document fails at most before any file is changed.** -/
theorem files_of_delete_error {label : String} {e : Failure}
    (h : (delete root label).Granted own w)
    (hfails : (delete root label).perform w = (.error e, w')) : w'.files = w.files := by
  have hquiet := Act.files_perform (quiet_loadIndex root) w
  unfold delete at h hfails
  cases hload : (loadIndex root).perform w with
  | mk r w₁ =>
    rw [hload] at hquiet
    cases r with
    | error e' =>
      rw [Act.perform_bind_error hload] at hfails
      cases hfails
      exact hquiet
    | ok index =>
      rw [Act.granted_bind_ok hload] at h
      rw [Act.perform_bind_ok hload] at hfails
      cases hget : index.get? label with
      | none =>
        simp only [hget] at hfails
        cases hfails
        exact hquiet
      | some r =>
        simp only [hget] at h hfails
        obtain ⟨w₂, -, -, hsaved, -⟩ := replaceFile_granted hown (.inl rfl) h.2.left
        have hindexed : (saveIndex root (index.erase label)).perform w₁ = (.ok (), w₂) := hsaved
        rw [Act.granted_bind_ok hindexed] at h
        rw [Act.perform_bind_ok hindexed] at hfails
        obtain ⟨w₃, hdiscarded⟩ := discard_granted hown h.2.2
        rw [hdiscarded] at hfails
        cases hfails

end Granted

end Ninefold.Disk
