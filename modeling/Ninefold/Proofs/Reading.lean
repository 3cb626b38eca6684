import Mathlib
import Ninefold.Proofs.Record
import Ninefold.SettingsFile

/-!
# What readings come to

What is known of records and settings from their having been read, whatever
text they were read from: every coordinate is one that an address gives, or the
origin. What was written with a label is read with that label, if it is read at
all; the times in it may be such that it is not.
-/

namespace Ninefold

namespace Reading

variable {α β : Type}

/-- Whatever a reading comes to has a property. -/
def Yields (r : Reading α) (P : α → Prop) : Prop :=
  ∀ ns x, (StateT.run (OptionT.run r) ns).1 = some x → P x

variable {r : Reading α} {f : α → Reading β} {P P' : α → Prop} {Q : β → Prop}

theorem Yields.mono (h : r.Yields P) (hP : ∀ x, P x → P' x) : r.Yields P' :=
  fun ns x hx => hP x (h ns x hx)

theorem yields_pure {x : α} (h : P x) : (pure x : Reading α).Yields P :=
  fun _ _ hx => Option.some.inj hx ▸ h

theorem yields_failure : (failure : Reading α).Yields P := fun _ _ hx => by cases hx

theorem Gives.yields {x : α} (h : r.Gives x) (hx : P x) : r.Yields P := by
  intro ns y hy
  obtain ⟨ns', hrun⟩ := h ns
  rw [hrun] at hy
  cases hy
  exact hx

theorem yields_true (r : Reading α) : r.Yields fun _ => True := fun _ _ _ => trivial

theorem Yields.bind (h : r.Yields P) (hf : ∀ x, P x → (f x).Yields Q) :
    (r >>= f).Yields Q := by
  intro ns y hy
  rw [OptionT.run_bind, Option.elimM, StateT.run_bind] at hy
  cases hrun : StateT.run (OptionT.run r) ns with
  | mk result ns' =>
    rw [hrun] at hy
    cases result with
    | none => cases hy
    | some x => exact hf x (h ns x (by rw [hrun])) ns' y hy

theorem Yields.map {f : α → β} (h : r.Yields fun x => Q (f x)) : (f <$> r).Yields Q := by
  rw [map_eq_pure_bind]
  exact h.bind fun x hx => yields_pure hx

theorem yields_ofOption {o : Option α} (h : ∀ x, o = some x → P x) : (ofOption o).Yields P := by
  cases o with
  | none => exact yields_failure
  | some x => exact yields_pure (h x rfl)

theorem yields_text {P : Text → Prop} {j : Json} (h : ∀ t, j = .string (some t) → P t) :
    (text j).Yields P := by
  unfold text
  split
  · exact yields_pure (h _ rfl)
  · exact yields_failure

theorem yields_string {P : String → Prop} {j : Json}
    (h : ∀ t, j = .string (some t) → P t.asString) : (string j).Yields P := (yields_text h).map

theorem yields_whole {read : Json → Reading α} {t : Text} (h : (read (Json.parse t).1).Yields P) :
    (whole read t).Yields P := by
  unfold whole
  cases hparse : Json.parse t with
  | mk tree complete =>
    rw [hparse] at h
    refine Yields.bind (P := P) h fun x hx => ?_
    split
    · exact yields_pure hx
    · exact yields_failure

/-- What was written is read from its own tree. -/
theorem yields_whole_pretty {read : Json → Reading α} {d : Json.Draft}
    (h : (read d.tree).Yields P) : (whole read d.pretty).Yields P :=
  yields_whole (d.parse_pretty ▸ h)

end Reading

open Reading

namespace Record

variable {label : String → Prop} {place : Coordinate → Prop}

theorem yields_once {α : Type} {P : α → Prop} {old : Option α} {read : Reading α}
    (h : read.Yields P) : (once old read).Yields fun o => ∀ x, o = some x → P x := by
  unfold once
  split
  · exact yields_failure
  · exact Yields.map (h.mono fun x hx y hy => Option.some.inj hy ▸ hx)

theorem yields_readCoordinate (haddress : ∀ a, place (.ofAddress a)) (j : Json) :
    (Coordinate.read j).Yields place :=
  (yields_true _).bind fun a _ => (yields_true _).bind fun _ _ => yields_pure (haddress a)

namespace Fields

/-- The label and the coordinate that have been read, if they have, are of
certain ones. -/
structure Fits (label : String → Prop) (place : Coordinate → Prop) (f : Fields) : Prop where
  label : ∀ l, f.label = some l → label l
  place : ∀ c, f.coordinate = some c → place c

theorem fits_none : Fields.none.Fits label place where
  label _ h := by cases h
  place _ h := by cases h

variable {f : Fields}

/-- A member changes the label only under the key of labels. -/
theorem Fits.yields_readMember {key : Option Text} {value : Json} (hf : f.Fits label place)
    (haddress : ∀ a, place (.ofAddress a))
    (hlabel : ∀ t, key = some (Text.ofString "label") → value = .string (some t) →
      label t.asString) :
    (f.readMember key value).Yields (Fits label place) := by
  unfold readMember
  have hkey : (Text.asString <$> ofOption key).Yields fun name =>
      key = some (Text.ofString name) := by
    refine (yields_ofOption fun k hk => ?_).map
    rw [Text.ofString_asString, hk]
  refine hkey.bind fun name hname => ?_
  split
  · exact (yields_true _).bind fun i _ => yields_pure ⟨hf.label, hf.place⟩
  · refine (yields_once (yields_string fun t ht => hlabel t hname ht)).bind fun o ho => ?_
    exact yields_pure ⟨ho, hf.place⟩
  · exact (yields_true _).bind fun i _ => yields_pure ⟨hf.label, hf.place⟩
  · exact (yields_true _).bind fun i _ => yields_pure ⟨hf.label, hf.place⟩
  · refine (yields_once (yields_readCoordinate haddress value)).bind fun o ho => ?_
    exact yields_pure ⟨hf.label, ho⟩
  · split
    · exact yields_pure hf
    · exact yields_failure

theorem Fits.yields_readMembers {members : List (Option Text × Json)} (hf : f.Fits label place)
    (haddress : ∀ a, place (.ofAddress a))
    (hlabel : ∀ t, (some (Text.ofString "label"), .string (some t)) ∈ members →
      label t.asString) :
    (readMembers members f).Yields (Fits label place) := by
  induction members generalizing f with
  | nil => exact yields_pure hf
  | cons e rest ih =>
    obtain ⟨key, value⟩ := e
    refine (hf.yields_readMember haddress fun t hkey hvalue => hlabel t ?_).bind fun f' hf' => ?_
    · rw [hkey, hvalue]
      exact List.mem_cons_self
    · exact ih hf' fun t ht => hlabel t (List.mem_cons_of_mem _ ht)

/-- The record of fields has their label and coordinate. -/
theorem Fits.yields_record? (hf : f.Fits label place) (horigin : place .origin) :
    (ofOption f.record?).Yields fun r => label r.label ∧ place r.coordinate := by
  refine yields_ofOption fun r hr => ?_
  simp only [record?, Option.bind_eq_bind, Option.bind_eq_some_iff, Option.pure_def,
    Option.some.injEq] at hr
  obtain ⟨id, -, l, hl, created, -, updated, -, rfl⟩ := hr
  refine ⟨hf.label l hl, ?_⟩
  cases hc : f.coordinate with
  | none => exact horigin
  | some c => exact hf.place c hc

end Fields

variable (horigin : place .origin) (haddress : ∀ a, place (.ofAddress a))

include horigin haddress

/-- A record that has been read stands where an address leads, or at the
origin. -/
theorem yields_read (j : Json) : (read j).Yields fun r => place r.coordinate := by
  unfold read
  split
  · have hstart : Fields.none.Fits (fun _ => True) place := Fields.fits_none
    refine Yields.bind (hstart.yields_readMembers haddress fun _ _ => trivial) fun f hf => ?_
    exact (hf.yields_record? horigin).mono fun r hr => hr.2
  · refine (yields_true _).bind fun id _ => (yields_true _).bind fun l _ =>
      (yields_true _).bind fun created _ => (yields_true _).bind fun updated _ => ?_
    split
    · exact yields_pure horigin
    · exact (yields_readCoordinate haddress _).bind fun c hc => yields_pure hc
    · exact (yields_true _).bind fun _ _ => yields_failure
  · exact yields_failure

/-- A record that was written is read with its label, if it is read. -/
theorem yields_read_draft (r : Record) :
    (read r.draft.tree).Yields fun x => x.label = r.label ∧ place x.coordinate := by
  have hstart : Fields.none.Fits (· = r.label) place := Fields.fits_none
  rw [tree_draft, read]
  refine Yields.bind (hstart.yields_readMembers haddress fun t ht => ?_) fun f hf =>
    hf.yields_record? horigin
  -- only one of the members is called so
  simp only [List.mem_cons, Prod.mk.injEq, Option.some.injEq, Json.string.injEq,
    List.not_mem_nil, or_false] at ht
  rcases ht with h | h | h | h | h
  · exact absurd h.1 (by decide)
  · rw [h.2, Text.asString_ofString]
  · exact absurd h.1 (by decide)
  · exact absurd h.1 (by decide)
  · exact absurd h.1 (by decide)

end Record

namespace Index

/-- An index has the entries that its members are read as. -/
theorem yields_readMembers {Entry : String → Record → Prop}
    {members : List (Option Text × Json)} {start : Index}
    (hmembers : ∀ key value, (some key, value) ∈ members →
      (Record.read value).Yields (Entry key.asString))
    (hstart : ∀ label r, start.get? label = some r → Entry label r) :
    (readMembers members start).Yields fun index =>
      ∀ label r, index.get? label = some r → Entry label r := by
  induction members generalizing start with
  | nil => exact yields_pure hstart
  | cons e rest ih =>
    obtain ⟨key, value⟩ := e
    cases key with
    | none => exact yields_failure
    | some key =>
      refine (yields_pure (P := (· = key)) rfl).bind fun k hk => ?_
      cases hk
      refine (hmembers key value List.mem_cons_self).bind fun r hr => ?_
      refine ih (fun key value hmem => hmembers key value (List.mem_cons_of_mem _ hmem)) ?_
      intro label r' hget
      rw [Table.get?_put] at hget
      split at hget
      next hlabel =>
        cases hget
        exact hlabel ▸ hr
      next => exact hstart label r' hget

/-- Whatever text an index is read from, its entries are as records are read. -/
theorem yields_read {Entry : String → Record → Prop}
    (h : ∀ label j, (Record.read j).Yields (Entry label)) (j : Json) :
    (read j).Yields fun index => ∀ label r, index.get? label = some r → Entry label r := by
  unfold read
  split
  · exact yields_readMembers (fun key value _ => h key.asString value) fun _ _ hget => by
      cases hget
  · exact yields_failure

/-- An index that was written is read with the entries that its records are
read as. -/
theorem yields_read_draft {Entry : String → Record → Prop} {index : Index}
    (h : ∀ label r, index.get? label = some r → (Record.read r.draft.tree).Yields (Entry label)) :
    (read index.draft.tree).Yields fun index =>
      ∀ label r, index.get? label = some r → Entry label r := by
  rw [tree_draft]
  refine yields_readMembers (fun key value hmem => ?_) fun _ _ hget => by cases hget
  obtain ⟨⟨label, r⟩, hentry, heq⟩ := List.mem_map.mp hmem
  cases heq
  rw [Text.asString_ofString]
  exact h label r (Table.get?_eq_some_iff.mpr hentry)

end Index

namespace Settings

/-- The members that settings are written with. -/
theorem tree_draft (s : Settings) :
    s.draft.tree = .object
      [(some (Text.ofString "default_label"), .string (some (Text.ofString s.defaultLabel))),
        (some (Text.ofString "preview_width"), .number (some s.previewWidth))] := rfl

theorem gives_readLabel (label : String) :
    Gives (Fields.readMember ⟨none, none⟩ (some (Text.ofString "default_label"))
      (.string (some (Text.ofString label)))) ⟨some label, none⟩ := by
  refine (gives_pure (Text.ofString "default_label")).bind ?_
  rw [Text.asString_ofString]
  exact (Record.gives_once (gives_string label)).bind (gives_pure _)

/-- Settings that were written are read with their default label, if they are
read. -/
theorem yields_read_draft (s : Settings) :
    (read s.draft.tree).Yields fun x => x.defaultLabel = s.defaultLabel := by
  have hwidth : ∀ f : Fields, (f.readMember (some (Text.ofString "preview_width"))
      (.number (some s.previewWidth))).Yields fun f' => f'.defaultLabel = f.defaultLabel := by
    intro f
    refine Yields.bind ((gives_pure (Text.ofString "preview_width")).yields rfl) fun k hk => ?_
    rw [← hk, Text.asString_ofString]
    exact (yields_true _).bind fun o _ => yields_pure rfl
  rw [tree_draft, read]
  refine Yields.map (Yields.bind ((gives_readLabel s.defaultLabel).yields rfl) fun f hf => ?_)
  refine (hwidth f).bind fun f' hf' => yields_pure ?_
  rw [Fields.settings, hf', ← hf]
  rfl

theorem yields_readWidth (j : Json) : (readWidth j).Yields (· ≤ widthLimit) := by
  unfold readWidth
  split
  · split
    next hwidth => exact yields_pure hwidth
    next => exact yields_failure
  · exact yields_failure

/-- The width that has been read, if it has, is in range. -/
def Fields.WidthInRange (f : Fields) : Prop := ∀ n, f.previewWidth = some n → n ≤ widthLimit

theorem Fields.WidthInRange.yields_readMember {f : Fields} (hf : f.WidthInRange)
    (key : Option Text) (value : Json) : (f.readMember key value).Yields WidthInRange := by
  unfold readMember
  refine (yields_true _).bind fun name _ => ?_
  split
  · exact (yields_true _).bind fun _ _ => yields_pure hf
  · exact (Record.yields_once (yields_readWidth value)).bind fun _ hwidth => yields_pure hwidth
  · split
    · exact yields_pure hf
    · exact yields_failure

theorem Fields.WidthInRange.yields_readMembers {members : List (Option Text × Json)} {f : Fields}
    (hf : f.WidthInRange) : (readMembers members f).Yields WidthInRange := by
  induction members generalizing f with
  | nil => exact yields_pure hf
  | cons e rest ih => exact (hf.yields_readMember e.1 e.2).bind fun _ => ih

/-- Whatever text settings are read from, their width is in range. -/
theorem yields_read (j : Json) : (read j).Yields fun s => s.previewWidth ≤ widthLimit := by
  have hstandard : standard.previewWidth ≤ widthLimit := by decide
  unfold read
  split
  · have hstart : Fields.WidthInRange ⟨none, none⟩ := fun _ h => by cases h
    refine Yields.map (hstart.yields_readMembers.mono fun f hf => ?_)
    show f.previewWidth.getD standard.previewWidth ≤ widthLimit
    cases hwidth : f.previewWidth with
    | none => exact hstandard
    | some n => exact hf n hwidth
  · exact yields_pure hstandard
  · exact (yields_true _).bind fun _ _ => yields_pure hstandard
  · exact (yields_true _).bind fun _ _ =>
      (yields_readWidth _).bind fun _ hwidth => yields_pure hwidth
  · exact yields_failure

/-- Settings that were written are read as they are, if their width is one that
can be read. -/
theorem gives_read_draft {s : Settings} (h : s.previewWidth ≤ widthLimit) :
    (read s.draft.tree).Gives s := by
  have hread : Gives (readWidth (.number (some s.previewWidth))) s.previewWidth := by
    rw [readWidth, if_pos h]
    exact gives_pure _
  have hwidth : Gives (Fields.readMember ⟨some s.defaultLabel, none⟩
      (some (Text.ofString "preview_width")) (.number (some s.previewWidth)))
      ⟨some s.defaultLabel, some s.previewWidth⟩ := by
    refine (gives_pure (Text.ofString "preview_width")).bind ?_
    rw [Text.asString_ofString]
    exact (Record.gives_once hread).bind (gives_pure _)
  have hmembers : Gives (Fields.readMembers
      [(some (Text.ofString "default_label"), .string (some (Text.ofString s.defaultLabel))),
        (some (Text.ofString "preview_width"), .number (some s.previewWidth))] ⟨none, none⟩)
      ⟨some s.defaultLabel, some s.previewWidth⟩ :=
    (gives_readLabel s.defaultLabel).bind (hwidth.bind (gives_pure _))
  rw [tree_draft, read]
  exact hmembers.map Fields.settings

end Settings

end Ninefold
