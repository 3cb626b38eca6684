import Ninefold.Session.Call
import Ninefold.Proofs.Act
import Ninefold.Proofs.Inputs

/-!
# Ledgers

What the operations that change documents mean, without any text that is cut
or woven. A ledger has for each label where its document stands and a map from
coordinates to texts; an edit changes one entry of it, or fails and leaves it.
-/

namespace Ninefold

/-- An operation that changes documents, with what it is given. -/
inductive Edit where
  | insert (label address : Option String) (text : Text)
  | update (label address : Option String) (text : Text)
  | delete (label address : Option String)
  | push (label address : Option String) (path : String)
  | importFile (label : Option String) (path : String)
  | normalize (label : Option String)
  | goTo (label : Option String) (address : String)
  | jump (label : Option String) (axis : String) (value : Nat)
  | step (label : Option String) (axis : String) (forward : Bool)
  | remove (label : Option String)

/-- The edit as a call of a session. -/
def Edit.call : Edit → Call
  | .insert label address text => .insert label address text
  | .update label address text => .update label address text
  | .delete label address => .delete label address
  | .push label address path => .push label address path
  | .importFile label path => .importFile label path
  | .normalize label => .normalize label
  | .goTo label address => .goTo label address
  | .jump label axis value => .jump label axis value
  | .step label axis forward => .step label axis forward
  | .remove label => .remove label

/-- A file that is imported whole has fewer characters than an axis has
positions. -/
def Edit.Short (w : World) : Edit → Prop
  | .importFile _ path => ∀ t, w.source path = .ok t → t.length < Position.limit
  | _ => True

/-! ## Sheets -/

/-- What a ledger has on a document: the coordinate it stands at, and the texts
that are not empty. -/
structure Sheet where
  place : Coordinate
  texts : Coordinate → Option Text

namespace Sheet

/-- The sheet of a document that has just been begun. -/
def blank : Sheet := ⟨.origin, fun _ => none⟩

/-- The coordinate that an edit acts on: the one of its address, or the one
that the document stands at. -/
def target (s : Sheet) (address : Option String) : Coordinate :=
  (address.map Coordinate.ofAddress).getD s.place

/-- The text at a coordinate, empty if there is none. -/
def text (s : Sheet) (c : Coordinate) : Text := (s.texts c).getD []

/-- The sheet with a text at a coordinate; an empty text takes the entry away. -/
def write (s : Sheet) (c : Coordinate) (t : Text) : Sheet :=
  { s with texts := fun c' => if c' = c then if t.isEmpty then none else some t else s.texts c' }

/-- The sheet without the text at a coordinate. -/
def erase (s : Sheet) (c : Coordinate) : Sheet := s.write c []

/-- The sheet standing at another coordinate. -/
def moveTo (s : Sheet) (c : Coordinate) : Sheet := { s with place := c }

/-- The sheet with a text in place of the one at a coordinate, where it now
stands. -/
def replace (s : Sheet) (c : Coordinate) (t : Text) : Sheet := (s.write c t).moveTo c

/-- The sheet with a text put after the one at a coordinate, where it now
stands. -/
def append (s : Sheet) (c : Coordinate) (t : Text) : Sheet := s.replace c (s.text c ++ t)

/-- The sheet with the texts of a whole document. -/
def fill (s : Sheet) (t : Text) : Sheet :=
  { s with texts := fun c => (Document.ofText t).cells.get? c }

end Sheet

/-! ## Edits of a ledger -/

/-- For each label the sheet of its document, if there is one. -/
abbrev Ledger := String → Option Sheet

namespace Ledger

/-- The ledger without documents. -/
def empty : Ledger := fun _ => none

/-- The sheet of a label, blank if there is none. -/
def begun (m : Ledger) (label : String) : Sheet := (m label).getD .blank

/-- The sheet of a label that must have one. -/
def known (m : Ledger) (label : String) : Except Failure Sheet :=
  match m label with
  | some sheet => .ok sheet
  | none => .error (.unknownLabel label)

theorem known_eq_ok {m : Ledger} {label : String} {sheet : Sheet} (h : m label = some sheet) :
    m.known label = .ok sheet := by
  rw [known, h]

theorem known_eq_error {m : Ledger} {label : String} (h : m label = none) :
    m.known label = .error (.unknownLabel label) := by
  rw [known, h]

/-- The ledger with another entry for a label. -/
def set (m : Ledger) (label : String) (sheet : Option Sheet) : Ledger :=
  fun l => if l = label then sheet else m l

theorem set_self {m : Ledger} {label : String} {sheet : Sheet} (h : m label = some sheet) :
    m.set label sheet = m := by
  funext l
  unfold set
  split
  · next hl => rw [hl, h]
  · rfl

/-- The ledger with a sheet revised, a blank one if there is none. -/
def revise (m : Ledger) (label : String) (f : Sheet → Sheet) : Ledger :=
  m.set label (f (m.begun label))

/-- Whether a text may be put in a scroll: it must hold no delimiter. -/
def allow (t : Text) : Except Failure Unit :=
  match Delimiters.standard.firstReserved? t with
  | some ch => .error (.reserved ch)
  | none => .ok ()

theorem allow_eq_ok {t : Text} (h : Delimiters.standard.firstReserved? t = none) :
    allow t = .ok () := by
  rw [allow, h]

theorem allow_eq_error {t : Text} {ch : Char}
    (h : Delimiters.standard.firstReserved? t = some ch) : allow t = .error (.reserved ch) := by
  rw [allow, h]

/-- The axis that a text names. -/
def axis (name : String) : Except Failure Axis :=
  match Axis.all.find? fun a => Axis.Named name a with
  | some a => .ok a
  | none => .error (.unknownAxis name)

/-- The ledger after an edit, for a user with some settings to whom `source`
gives the texts of files. -/
def apply (m : Ledger) (settings : Settings) (source : String → Except FileError Text) :
    Edit → Except Failure Ledger
  | .insert label address t => do
    allow t
    return m.revise (settings.resolveLabel label) fun s => s.append (s.target address) t
  | .update label address t => do
    allow t
    return m.revise (settings.resolveLabel label) fun s => s.replace (s.target address) t
  | .delete label address => do
    let s ← m.known (settings.resolveLabel label)
    return m.set (settings.resolveLabel label) (s.erase (s.target address))
  | .push label address path => do
    let t ← (source path).mapError (.unreadable path)
    allow t
    return m.revise (settings.resolveLabel label) fun s => s.replace (s.target address) t
  | .importFile label path => do
    let t ← (source path).mapError (.unreadable path)
    return m.revise (settings.resolveLabel label) fun s => s.fill t
  | .normalize label => do
    let _ ← m.known (settings.resolveLabel label)
    return m
  | .goTo label address =>
    return m.revise (settings.resolveLabel label) fun s => s.moveTo (.ofAddress address)
  | .jump label name value => do
    let a ← axis name
    return m.revise (settings.resolveLabel label) fun s => s.moveTo (s.place.set a value)
  | .step label name forward => do
    let a ← axis name
    return m.revise (settings.resolveLabel label) fun s =>
      s.moveTo (if forward then s.place.next a else s.place.previous a)
  | .remove label => do
    let _ ← m.known (settings.resolveLabel label)
    return m.set (settings.resolveLabel label) none

/-- The ledger after an edit, which stays as it is if the edit fails. -/
def after (m : Ledger) (settings : Settings) (source : String → Except FileError Text)
    (e : Edit) : Ledger :=
  match m.apply settings source e with
  | .ok m' => m'
  | .error _ => m

/-- The ledger after a run of edits, each with the world it is made in. -/
def run (m : Ledger) (settings : Settings) (steps : List (World × Edit)) : Ledger :=
  steps.foldl (fun m step => m.after settings step.1.source step.2) m

/-- What listing the scrolls of a label comes to: what its sheet has, each once
and in the order of coordinates, or the failure that there is no such label. -/
def Lists (m : Ledger) (label : String) : Except Failure (List Scroll) → Prop
  | .ok scrolls => ∃ sheet, m label = some sheet ∧
      scrolls.Pairwise (fun a b => a.place < b.place) ∧
      ∀ s : Scroll, s ∈ scrolls ↔ sheet.texts s.place = some s.text
  | .error e => m label = none ∧ e = .unknownLabel label

end Ledger

end Ninefold
