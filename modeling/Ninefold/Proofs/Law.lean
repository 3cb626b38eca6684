import Mathlib
import Ninefold.Proofs.Disk.Changes
import Ninefold.Proofs.Place
import Ninefold.Proofs.Quiet

/-!
# Laws about files

A law says what the text of a file may be, by the place that the file has. An
act upholds a law if it writes only what the law allows; it may rely on the law
for what it reads, and so for what it comes to. Nothing is asked of requests
that fail, nor of files that are no text.
-/

namespace Ninefold

variable {α β : Type}

/-- What the texts of files may be by their places, where paths are followed
from a working directory. -/
structure Law where
  cwd : Place
  allows : Place → Text → Prop

/-- A law allows a text at the place that a path means. -/
def Law.AllowsAt (l : Law) (path : String) (t : Text) : Prop := l.allows (Path.place l.cwd path) t

/-- A tree in which every file that is text is allowed. -/
def FileTree.Obeys (files : FileTree) (l : Law) : Prop :=
  ∀ ⦃p content t⦄, files.at? p = some (.file content) → Text.ofBytes? content = some t →
    l.allows p t

/-- A world whose files obey a law, in the working directory of the law. -/
structure World.Obeys (w : World) (l : Law) : Prop where
  cwd : w.cwd = l.cwd
  files : w.files.Obeys l

/-! ## Trees that obey -/

namespace FileTree

variable {l : Law} {t t' : FileTree} {cwd : Place} {path target : String} {content : ByteArray}

/-- A tree whose files all come from another obeys as that does. -/
theorem Obeys.of_files (h : t.Obeys l)
    (hfiles : ∀ p content, t'.at? p = some (.file content) → t.at? p = some (.file content)) :
    t'.Obeys l := fun p content _ hat hu => h (hfiles p content hat) hu

theorem Obeys.write (h : t.Obeys l) (hwrite : t.write l.cwd path content = .ok t')
    (hallowed : ∀ u, Text.ofBytes? content = some u → l.AllowsAt path u) : t'.Obeys l := by
  intro p found u hat hu
  rw [at?_of_write hwrite] at hat
  split at hat
  next hp =>
    cases hat
    exact hp ▸ hallowed u hu
  next => exact h hat hu

theorem Obeys.rename (h : t.Obeys l) (hrename : t.rename l.cwd path target = .ok t')
    (hallowed : ∀ content u, t.at? (Path.place l.cwd path) = some (.file content) →
      Text.ofBytes? content = some u → l.AllowsAt target u) : t'.Obeys l := by
  obtain ⟨content, hsource, hafter⟩ := at?_of_rename hrename
  intro p found u hat hu
  rw [hafter] at hat
  split at hat
  next hp =>
    cases hat
    exact hp ▸ hallowed _ u hsource hu
  next =>
    split at hat
    · cases hat
    · exact h hat hu

theorem Obeys.remove (h : t.Obeys l) (hremove : t.remove cwd path = .ok t') : t'.Obeys l := by
  refine h.of_files fun p content hat => ?_
  rw [at?_of_remove hremove] at hat
  split at hat
  · cases hat
  · exact hat

theorem Obeys.makeDirectories (h : t.Obeys l) (cwd : Place) (path : String) :
    (t.makeDirectories cwd path).2.Obeys l :=
  h.of_files fun _ _ hat => file_of_makeDirectories cwd path hat

end FileTree

/-! ## Acts that uphold a law -/

namespace Act

/-- From a world that obeys a law, an act leads to one that does, and what it
comes to has a property. -/
def Upholds (l : Law) (a : Act α) (P : α → Prop) : Prop :=
  ∀ w : World, w.Obeys l →
    (a.perform w).2.Obeys l ∧ ∀ x, (a.perform w).1 = .ok x → P x

variable {l : Law} {a : Act α} {f : α → Act β} {P P' : α → Prop} {Q : β → Prop}

theorem Upholds.mono (h : a.Upholds l P) (hP : ∀ x, P x → P' x) : a.Upholds l P' :=
  fun w hw => ⟨(h w hw).1, fun x hx => hP x ((h w hw).2 x hx)⟩

theorem Upholds.bind (h : a.Upholds l P) (hf : ∀ x, P x → (f x).Upholds l Q) :
    (a >>= f).Upholds l Q := by
  intro w hw
  obtain ⟨hafter, hresult⟩ := h w hw
  cases hrun : a.perform w with
  | mk r w' =>
    rw [hrun] at hafter hresult
    cases r with
    | ok x =>
      rw [perform_bind_ok hrun]
      exact hf x (hresult x rfl) w' hafter
    | error e =>
      rw [perform_bind_error hrun]
      exact ⟨hafter, fun _ hx => by cases hx⟩

theorem upholds_pure {x : α} (h : P x) : (pure x : Act α).Upholds l P :=
  fun _ hw => ⟨hw, fun _ hx => Except.ok.inj hx ▸ h⟩

theorem upholds_throw (e : Failure) : (throw e : Act α).Upholds l P :=
  fun _ hw => ⟨hw, fun _ hx => by cases hx⟩

theorem upholds_ofExcept {r : Except Failure α} (h : ∀ x, r = .ok x → P x) :
    (ofExcept r).Upholds l P := fun _ hw => ⟨hw, h⟩

/-- Quiet acts change no file. -/
theorem upholds_of_quiet (hq : a.AsksOnly Request.Quiet)
    (h : ∀ w : World, w.Obeys l → ∀ x, (a.perform w).1 = .ok x → P x) : a.Upholds l P := by
  refine fun w hw => ⟨⟨(a.cwd_perform w).trans hw.cwd, ?_⟩, h w hw⟩
  rw [files_perform hq]
  exact hw.files

theorem upholds_quiet (hq : a.AsksOnly Request.Quiet) : a.Upholds l fun _ => True :=
  upholds_of_quiet hq fun _ _ _ _ => trivial

theorem upholds_send (r : Request) (h : r.Quiet) : (send r).Upholds l fun _ => True :=
  upholds_quiet (asksOnly_send h)

theorem upholds_notes (ns : List Note) : (notes ns).Upholds l fun _ => True :=
  upholds_quiet (asksOnly_notes (fun _ => trivial) ns)

/-- A text that is read is one that the law allows where it lies. -/
theorem upholds_readText (path : String) : (readText path).Upholds l (l.AllowsAt path) := by
  refine upholds_of_quiet (Disk.asksOnly_readText trivial) fun w hw t ht => ?_
  rw [readText, perform_file] at ht
  replace ht : (decode (w.files.read w.cwd path)).mapError _ = .ok t := ht
  rw [hw.cwd] at ht
  cases hread : w.files.read l.cwd path with
  | error e =>
    rw [hread] at ht
    cases ht
  | ok content =>
    rw [hread, decode] at ht
    cases htext : Text.ofBytes? content with
    | none =>
      rw [htext] at ht
      cases ht
    | some u =>
      rw [htext] at ht
      cases ht
      exact hw.files (FileTree.at?_of_read hread) htext

/-- A change of files leads to files that obey if it does where it is not
refused. -/
theorem obeys_change {w : World} {s : Script (Except FileError Unit)}
    {changed : Except FileError FileTree} (hw : w.Obeys l) (hs : s.run w = w.change changed)
    (h : ∀ files, changed = .ok files → files.Obeys l) : ((file s).perform w).2.Obeys l := by
  refine ⟨(cwd_perform _ w).trans hw.cwd, ?_⟩
  rw [perform_file, hs]
  cases changed with
  | error e => exact hw.files
  | ok files => exact h files rfl

/-- What may lie at a path may be written there. -/
theorem upholds_writeText {path : String} {t : Text} (h : l.AllowsAt path t) :
    (writeText path t).Upholds l fun _ => True := by
  refine fun w hw => ⟨obeys_change hw rfl fun files hwrite => ?_, fun _ _ => trivial⟩
  rw [hw.cwd] at hwrite
  refine hw.files.write hwrite fun u hu => ?_
  rw [Text.ofBytes?_bytes] at hu
  cases hu
  exact h

theorem upholds_remove (path : String) :
    (file (Script.send (.remove path))).Upholds l fun _ => True :=
  fun _ hw => ⟨obeys_change hw rfl fun _ hremove => hw.files.remove hremove, fun _ _ => trivial⟩

theorem upholds_makeDirectories (path : String) :
    (file (Script.send (.makeDirectories path))).Upholds l fun _ => True := by
  refine fun w hw => ⟨⟨(cwd_perform _ w).trans hw.cwd, ?_⟩, fun _ _ => trivial⟩
  rw [perform_file]
  exact hw.files.makeDirectories w.cwd path

/-- A text that has been written lies at the place that the path means. -/
theorem at?_of_writeText {w w' : World} {path : String} {t : Text}
    (h : (writeText path t).perform w = (.ok (), w')) :
    w'.files.at? (Path.place w.cwd path) = some (.file t.bytes) := by
  obtain ⟨files, hwrite, rfl⟩ := exists_write_of_writeText h
  show files.at? _ = _
  rw [FileTree.at?_of_write hwrite, if_pos rfl]

/-- A text that may lie under either path may be written under one and renamed
to the other. -/
theorem upholds_writeText_rename {aside target : String} {t : Text} (haside : l.AllowsAt aside t)
    (htarget : l.AllowsAt target t) :
    (writeText aside t >>= fun _ =>
      file (Script.send (.rename aside target))).Upholds l fun _ => True := by
  intro w hw
  have hwritten := (upholds_writeText haside w hw).1
  cases hrun : (writeText aside t).perform w with
  | mk r w' =>
    rw [hrun] at hwritten
    cases r with
    | error e =>
      rw [perform_bind_error hrun]
      exact ⟨hwritten, fun _ hx => by cases hx⟩
    | ok _ =>
      rw [perform_bind_ok hrun]
      have hat := at?_of_writeText hrun
      rw [hw.cwd] at hat
      refine ⟨obeys_change hwritten rfl fun files hrename => ?_, fun _ _ => trivial⟩
      rw [hwritten.cwd] at hrename
      refine hwritten.files.rename hrename fun content u hsource hu => ?_
      -- what is renamed is what was written
      rw [hat] at hsource
      cases hsource
      rw [Text.ofBytes?_bytes] at hu
      cases hu
      exact htarget

end Act

namespace Disk

variable {l : Law} {root name : String} {t : Text}

/-- A file of a store may be replaced by what may lie there, and aside. -/
theorem upholds_replaceFile (haside : ∀ id, l.AllowsAt (Path.child root (asideName name id)) t)
    (h : l.AllowsAt (Path.child root name) t) :
    (replaceFile root name t).Upholds l fun _ => True :=
  (Act.upholds_send .newId trivial).bind fun id _ =>
    Act.upholds_writeText_rename (haside id) h

theorem upholds_discard (path : String) : (discard path).Upholds l fun _ => True := by
  refine (Act.upholds_send (.isThere path) trivial).bind fun there _ => ?_
  cases there with
  | false => exact Act.upholds_pure trivial
  | true => exact Act.upholds_remove path

theorem upholds_discardStale (root : String) (old : Option Record) (id : Ident) :
    (discardStale root old id).Upholds l fun _ => True := by
  unfold discardStale
  split
  · split
    · exact upholds_discard _
    · exact Act.upholds_pure trivial
  · exact Act.upholds_pure trivial

theorem upholds_makeRoot (root : String) : (makeRoot root).Upholds l fun _ => True := by
  refine (Act.upholds_send (.isThere root) trivial).bind fun there _ => ?_
  cases there with
  | false => exact Act.upholds_makeDirectories root
  | true => exact Act.upholds_pure trivial

end Disk

end Ninefold
