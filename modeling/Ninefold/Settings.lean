import Ninefold.Record

/-!
# Settings

What a user sets once for all documents: the label that is meant where none is
given, and the width of previews. The settings are kept as a JSON object, in
which either may be missing, or as an array of the two in order.
-/

namespace Ninefold

/-- The settings of a user. -/
structure Settings where
  defaultLabel : String
  previewWidth : Nat
deriving DecidableEq

namespace Settings

/-- The settings of a user who has set nothing. -/
def standard : Settings := ⟨"holiday", 250⟩

instance : Inhabited Settings := ⟨standard⟩

/-- The largest width. -/
def widthLimit : Nat := 18446744073709551615

/-- Why a setting cannot be changed to a value. -/
inductive Fault where
  | blankLabel
  | invalidWidth (value : String)
  | zeroWidth
deriving DecidableEq

/-- The wording of a fault. -/
def Fault.message : Fault → String
  | .blankLabel => "Default label cannot be blank"
  | .invalidWidth value => "Invalid preview width: " ++ value
  | .zeroWidth => "Preview width must be at least 1"

/-- The label that is meant: the given one without blanks around it, or the
default where none is given or the given one is blank. -/
def resolveLabel (s : Settings) (label : Option String) : String :=
  match label.map trimmed with
  | some l => if l.isEmpty then s.defaultLabel else l
  | none => s.defaultLabel

/-- The settings with another default label. -/
def setDefaultLabel (s : Settings) (value : String) : Except Fault Settings :=
  let label := trimmed value
  if label.isEmpty then .error .blankLabel else .ok { s with defaultLabel := label }

/-- The width that a text gives. -/
def width? (value : String) : Option Nat :=
  (Address.number? (Text.ofString value).trim).filter (· ≤ widthLimit)

/-- The settings with another width of previews. -/
def setPreviewWidth (s : Settings) (value : String) : Except Fault Settings :=
  match width? value with
  | none => .error (.invalidWidth value)
  | some 0 => .error .zeroWidth
  | some n => .ok { s with previewWidth := n }

theorem setDefaultLabel_eq_ok_iff {s s' : Settings} {value : String} :
    s.setDefaultLabel value = .ok s' ↔
      trimmed value ≠ "" ∧ s' = { s with defaultLabel := trimmed value } := by
  simp only [setDefaultLabel]
  split
  next hblank => simp [String.isEmpty_iff.mp hblank]
  next hblank =>
    have hlabel : trimmed value ≠ "" := by simpa [String.isEmpty_iff] using hblank
    rw [Except.ok.injEq]
    exact ⟨fun h => ⟨hlabel, h.symm⟩, fun h => h.2.symm⟩

theorem setPreviewWidth_eq_ok_iff {s s' : Settings} {value : String} :
    s.setPreviewWidth value = .ok s' ↔
      ∃ n, width? value = some n ∧ 1 ≤ n ∧ s' = { s with previewWidth := n } := by
  unfold setPreviewWidth
  split
  next hnone => simp [hnone]
  next hzero => simp [hzero]
  next n hne hwidth =>
    have hone : 1 ≤ n := Nat.pos_of_ne_zero hne
    constructor
    · intro h
      cases h
      exact ⟨n, hwidth, hone, rfl⟩
    · rintro ⟨m, hm, -, rfl⟩
      rw [hwidth] at hm
      cases hm
      rfl

theorem width?_le {value : String} {n : Nat} (h : width? value = some n) : n ≤ widthLimit := by
  simpa using (Option.filter_eq_some_iff.mp h).2

/-- A width from a JSON value. -/
def readWidth : Json → Reading Nat
  | .number (some n) => if n ≤ widthLimit then pure n else failure
  | _ => failure

/-- The settings that have been read. -/
structure Fields where
  defaultLabel : Option String
  previewWidth : Option Nat

/-- The settings, with the standard for what was not read. -/
def Fields.settings (f : Fields) : Settings :=
  ⟨f.defaultLabel.getD standard.defaultLabel, f.previewWidth.getD standard.previewWidth⟩

/-- The fields after one more member of an object. -/
def Fields.readMember (f : Fields) (key : Option Text) (value : Json) : Reading Fields := do
  match Text.asString (← Reading.ofOption key) with
  | "default_label" =>
    return { f with defaultLabel := ← Record.once f.defaultLabel (Reading.string value) }
  | "preview_width" =>
    return { f with previewWidth := ← Record.once f.previewWidth (readWidth value) }
  | _ => if value.isWhole then return f else failure

/-- The fields after all members of an object. -/
def Fields.readMembers : List (Option Text × Json) → Fields → Reading Fields
  | [], f => pure f
  | (key, value) :: rest, f => do readMembers rest (← f.readMember key value)

/-- Settings from a JSON value. -/
def read : Json → Reading Settings
  | .object members => Fields.settings <$> Fields.readMembers members ⟨none, none⟩
  | .array [] => pure standard
  | .array [label] => do return { standard with defaultLabel := ← Reading.string label }
  | .array [label, width] => do return ⟨← Reading.string label, ← readWidth width⟩
  | _ => failure

/-- The JSON value of settings. -/
def draft (s : Settings) : Json.Draft :=
  .object
    [(Text.ofString "default_label", .text (Text.ofString s.defaultLabel)),
     (Text.ofString "preview_width", .number s.previewWidth)]

end Settings

end Ninefold
