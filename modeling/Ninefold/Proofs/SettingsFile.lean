import Mathlib
import Ninefold.Proofs.Disk.Changes
import Ninefold.Proofs.Place
import Ninefold.Proofs.Reading

/-!
# Settings saved and loaded

Settings are written once their directory is there, and what is loaded is what
was written. Loading takes a look at the file of settings alone, so that it
comes to the same wherever the files are the same, whatever has been noted in
between.
-/

namespace Ninefold.Settings

variable {c : Settings} {directory : String} {w w' : World}

/-! ## Loading -/

theorem asksOnly_load (directory : String) :
    (load directory).AsksOnly (Request.Looks (· = path directory)) :=
  Disk.asksOnly_look (fun _ => Act.asksOnly_reading (fun _ => trivial) _) (Act.asksOnly_pure _)

theorem quiet_load (directory : String) : (load directory).AsksOnly Request.Quiet :=
  (asksOnly_load directory).mono fun _ => Request.Looks.quiet

/-- Settings are loaded from the text of their file. -/
theorem perform_load {t : Text} (hread : w.files.read w.cwd (path directory) = .ok t.bytes)
    (hgives : (Reading.whole read t).Gives c) :
    ∃ ns, (load directory).perform w = (.ok c, w.noted ns) := by
  obtain ⟨ns, hns⟩ := Act.perform_reading hgives w
  exact ⟨ns, by rw [load, Act.perform_look hread, hns]⟩

/-- The same settings are loaded from the same files. -/
theorem load_congr (hcwd : w'.cwd = w.cwd) (hfiles : w'.files = w.files) :
    ((load directory).perform w').1 = ((load directory).perform w).1 :=
  Act.perform_alike (asksOnly_load directory) (.of_files hcwd hfiles _)

/-! ## Saving -/

/-- Settings are written once the directory for them is there. -/
theorem save_eq (c : Settings) (directory : String) :
    c.save directory = Disk.makeRoot directory >>= fun _ =>
      Act.writeText (path directory) c.draft.pretty := by
  unfold save Disk.makeRoot
  rw [bind_assoc]
  refine bind_congr fun there => ?_
  cases there <;> rfl

/-- **Settings that have been saved are loaded**, if their width is one that can
be read. -/
theorem load_of_save (hwidth : c.previewWidth ≤ widthLimit)
    (h : (c.save directory).perform w = (.ok (), w')) :
    ((load directory).perform w').1 = .ok c := by
  rw [save_eq] at h
  obtain ⟨_, w₁, hmade⟩ := Act.perform_of_bind_ok h
  rw [Act.perform_bind_ok hmade] at h
  obtain ⟨files, hwrite, rfl⟩ := Act.exists_write_of_writeText h
  have hread := FileTree.read_of_write hwrite
  obtain ⟨ns, hload⟩ := perform_load (w := { w₁ with files }) hread
    (Reading.gives_whole (gives_read_draft hwidth))
  rw [hload]

/-- Settings can be saved where no change of files is refused. -/
theorem exists_perform_save (h : (c.save directory).Unrefused w) :
    ∃ w', (c.save directory).perform w = (.ok (), w') := by
  rw [save_eq] at h ⊢
  obtain ⟨w₁, hmade⟩ := Disk.exists_perform_makeRoot h.left
  rw [Act.unrefused_bind_ok hmade] at h
  obtain ⟨files, hwrite⟩ := h.2.write
  rw [Act.perform_bind_ok hmade]
  exact ⟨_, Act.perform_writeText hwrite⟩

end Ninefold.Settings
