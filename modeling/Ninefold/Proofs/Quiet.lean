import Mathlib
import Ninefold.Proofs.SettingsFile
import Ninefold.Session.Call

/-!
# What operations look up

The parts of operations that read a file, look a document up, or work a text
out change no file, whatever they come to.
-/

namespace Ninefold

variable {α : Type}

namespace Act

theorem quiet_ofExcept (r : Except Failure α) : (ofExcept r).AsksOnly Request.Quiet := trivial

theorem quiet_readSource (path : String) : (readSource path).AsksOnly Request.Quiet := by
  refine ⟨trivial, fun r => ?_⟩
  cases h : decode r <;> simp [h, Script.AsksOnly, pure]

theorem quiet_edited (edit : Except Char Document) : (edited edit).AsksOnly Request.Quiet :=
  quiet_ofExcept _

end Act

theorem Document.quiet_noteReading (doc : Document) (times : Nat) :
    (doc.noteReading times).AsksOnly Request.Quiet := Act.asksOnly_notes (fun _ => trivial) _

theorem quiet_requested (address : Option String) :
    (requested address).AsksOnly Request.Quiet := by
  cases address with
  | none => exact Act.asksOnly_pure _
  | some a => exact (Act.asksOnly_notes (fun _ => trivial) _).bind fun _ => Act.asksOnly_pure _

namespace Catalog

variable (c : Catalog) (label : String)

theorem quiet_fetch? : (c.fetch? label).AsksOnly Request.Quiet := by
  cases c with
  | memory m => exact Act.asksOnly_pure _
  | disk root => exact Disk.quiet_fetch? root label

theorem quiet_fetch : (c.fetch label).AsksOnly Request.Quiet := by
  refine (c.quiet_fetch? label).bind fun found => ?_
  cases found with
  | none => exact Act.asksOnly_throw _
  | some doc => exact Act.asksOnly_pure _

theorem quiet_fetchOrStart : (c.fetchOrStart label).AsksOnly Request.Quiet := by
  refine (c.quiet_fetch? label).bind fun found => ?_
  cases found with
  | none =>
    exact (Act.asksOnly_send (r := .now) trivial).bind fun _ =>
      (Act.asksOnly_send (r := .newId) trivial).bind fun _ => Act.asksOnly_pure _
  | some doc => exact Act.asksOnly_pure _

theorem quiet_list : c.list.AsksOnly Request.Quiet := by
  cases c with
  | memory m => exact Act.asksOnly_pure _
  | disk root => exact Disk.quiet_list root

theorem quiet_path : (c.path label).AsksOnly Request.Quiet := by
  cases c with
  | memory m => exact Act.quiet_ofExcept _
  | disk root =>
    refine (Disk.quiet_loadIndex root).bind fun index => ?_
    cases h : index.get? label with
    | none => exact Act.asksOnly_throw _
    | some r => exact Act.asksOnly_pure _

end Catalog

namespace Session

variable (s : Session) (label : Option String)

theorem quiet_standing : (s.standing label).AsksOnly Request.Quiet := by
  refine (s.catalog.quiet_fetch? _).bind fun found => ?_
  cases found <;> exact Act.asksOnly_pure _

theorem quiet_axisNamed (name : String) : (axisNamed name).AsksOnly Request.Quiet := by
  unfold axisNamed
  split
  · exact Act.asksOnly_pure _
  · exact Act.asksOnly_throw _

theorem quiet_namesIn (directory : String) : (namesIn directory).AsksOnly Request.Quiet := by
  refine (Act.asksOnly_send (r := .list directory) trivial).bind fun r => ?_
  cases r with
  | ok names => exact Act.asksOnly_pure _
  | error e => exact Act.asksOnly_throw _

theorem quiet_filesOf (directory : String) (names : List String) :
    (filesOf directory names).AsksOnly Request.Quiet := by
  induction names with
  | nil => exact Act.asksOnly_pure _
  | cons name rest ih =>
    exact (Act.asksOnly_send (r := .isFile (Path.child directory name)) trivial).bind fun _ =>
      ih.bind fun _ => Act.asksOnly_pure _

theorem Filling.quiet_place (f : Filling) (pen : Pen) (name : String) (t : Text) :
    (f.place pen name t).AsksOnly Request.Quiet := by
  unfold Filling.place
  split
  · exact Act.asksOnly_throw _
  · exact (Act.asksOnly_notes (fun _ => trivial) _).bind fun _ =>
      (Act.quiet_edited _).bind fun _ => (f.document.quiet_noteReading 1).bind fun _ =>
        Act.asksOnly_pure _

theorem Filling.quiet_takeFile (f : Filling) (pen : Pen) (directory name : String) :
    (f.takeFile pen directory name).AsksOnly Request.Quiet := by
  refine (Act.asksOnly_send (r := .read (Path.child directory name)) trivial).bind fun r => ?_
  cases Act.decode r with
  | error e => exact Act.asksOnly_pure _
  | ok t =>
    show Act.AsksOnly _ (if _ then _ else _)
    split
    · exact Act.asksOnly_pure _
    · exact f.quiet_place pen name t

theorem Filling.quiet_takeFiles (pen : Pen) (directory : String) (names : List String)
    (f : Filling) : (takeFiles pen directory names f).AsksOnly Request.Quiet := by
  induction names generalizing f with
  | nil => exact Act.asksOnly_pure _
  | cons name rest ih => exact (f.quiet_takeFile pen directory name).bind ih

theorem quiet_select (s : Session) (label address : Option String) :
    (s.select label address).AsksOnly Request.Quiet :=
  (quiet_requested address).bind fun _ => (s.catalog.quiet_fetch _).bind fun doc =>
    (doc.document.quiet_noteReading 1).bind fun _ => Act.asksOnly_pure _

end Session

end Ninefold
