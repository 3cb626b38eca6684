import Mathlib
import Ninefold.Proofs.Address
import Ninefold.Proofs.Coordinate

/-!
# The grammar of addresses

What an address says, told without how it is read. Blanks around an address do
not count; slashes part it into groups, and points part a group into parts. The
first three parts of the first three groups belong to the nine axes, one each,
and nothing else has any effect. A part names a number if, but for the blanks
around it, it is a numeral from 1 to 999, with or without a plus sign. The axis
of a part that names no number stands at the first position, as does an axis
without a part, and there is a warning for it unless the part is blank.

The relations here are decided by the functions that read addresses, which is
what the lemmas before the main statement say, each of one relation.
-/

namespace Ninefold

namespace Text

/-! ## Blanks at the ends -/

/-- A text is a core with blanks around it, and the core neither begins nor ends
with one. -/
structure Bare (t core : Text) : Prop where
  within : ∃ before after : Text, t = before ++ (core ++ after) ∧
    (∀ c ∈ before, isBlank c = true) ∧ ∀ c ∈ after, isBlank c = true
  head : ∀ c ∈ core.head?, isBlank c = false
  last : ∀ c ∈ core.getLast?, isBlank c = false

theorem trimEnd_eq_nil {t : Text} (h : ∀ c ∈ t, isBlank c = true) : trimEnd t = [] := by
  induction t with
  | nil => rfl
  | cons c t ih => simp [trimEnd_cons, ih fun d hd => h d (by simp [hd]), h c (by simp)]

theorem trimEnd_append {u : Text} (h : ∀ c ∈ u, isBlank c = true) (t : Text) :
    trimEnd (t ++ u) = trimEnd t := by
  induction t with
  | nil => exact trimEnd_eq_nil h
  | cons c t ih => rw [List.cons_append, trimEnd_cons, trimEnd_cons, ih]

/-- Only blanks are taken off the end. -/
theorem exists_trimEnd_append (t : Text) :
    ∃ after : Text, t = trimEnd t ++ after ∧ ∀ c ∈ after, isBlank c = true := by
  induction t with
  | nil => exact ⟨[], rfl, by simp⟩
  | cons c t ih =>
    obtain ⟨after, ht, hafter⟩ := ih
    rw [trimEnd_cons]
    by_cases hgone : ((trimEnd t).isEmpty && isBlank c) = true
    · have hboth : trimEnd t = [] ∧ isBlank c = true := by simpa using hgone
      rw [hboth.1, List.nil_append] at ht
      refine ⟨c :: t, by simp [hgone], ?_⟩
      intro d hd
      rcases List.mem_cons.mp hd with rfl | hd
      · exact hboth.2
      · exact hafter d (ht ▸ hd)
    · rw [if_neg hgone]
      exact ⟨after, congrArg (c :: ·) ht, hafter⟩

theorem getLast?_trimEnd (t : Text) : ∀ c ∈ (trimEnd t).getLast?, isBlank c = false := by
  induction t with
  | nil => simp [trimEnd]
  | cons c t ih =>
    rw [trimEnd_cons]
    by_cases hgone : ((trimEnd t).isEmpty && isBlank c) = true
    · simp [hgone]
    · rw [if_neg hgone]
      cases hrest : trimEnd t with
      | nil =>
        rw [hrest] at hgone
        simpa using hgone
      | cons d rest =>
        rw [hrest] at ih
        rwa [List.getLast?_cons_cons]

/-- A text that ends in no blank keeps its end. -/
theorem trimEnd_eq_self {t : Text} (h : ∀ c ∈ t.getLast?, isBlank c = false) : trimEnd t = t := by
  obtain ⟨after, ht, hafter⟩ := exists_trimEnd_append t
  cases hlast : after.getLast? with
  | none =>
    rw [List.getLast?_eq_none_iff.mp hlast, List.append_nil] at ht
    exact ht.symm
  | some c =>
    -- the last blank that was taken off would be the last of the text
    have hc : c ∈ t.getLast? := by
      rw [ht, List.getLast?_append, hlast]
      rfl
    have hblank := hafter c (List.mem_of_getLast? hlast)
    rw [h c hc] at hblank
    cases hblank

theorem head?_trim (t : Text) : ∀ c ∈ t.trim.head?, isBlank c = false := by
  have hstart : trimStart t.trim = t.trim :=
    trimStart_trimEnd (List.dropWhile_idempotent isBlank t)
  intro c hc
  cases htrim : t.trim with
  | nil => simp [htrim] at hc
  | cons d rest =>
    obtain rfl : d = c := by simpa [htrim] using hc
    rw [htrim] at hstart
    have hfirst := List.dropWhile_eq_self_iff.mp hstart (List.length_pos_of_mem List.mem_cons_self)
    simpa using hfirst

/-- **Trimming finds the core of a text.** -/
theorem bare_iff {t core : Text} : Bare t core ↔ t.trim = core := by
  constructor
  · rintro ⟨⟨before, after, rfl, hbefore, hafter⟩, hhead, hlast⟩
    have hstart : trimStart (before ++ (core ++ after)) = trimStart (core ++ after) :=
      List.dropWhile_append_of_pos hbefore
    rw [trim, hstart]
    cases core with
    | nil =>
      have hnone : trimStart after = [] := List.dropWhile_eq_nil_iff.mpr hafter
      rw [List.nil_append, hnone]
      rfl
    | cons c core =>
      have hc : isBlank c = false := hhead c rfl
      have hkept : trimStart (c :: core ++ after) = c :: core ++ after := by
        simp [trimStart, hc]
      rw [hkept, trimEnd_append hafter, trimEnd_eq_self hlast]
  · rintro rfl
    obtain ⟨after, ht, hafter⟩ := exists_trimEnd_append (trimStart t)
    refine ⟨⟨t.takeWhile isBlank, after, ?_, ?_, hafter⟩, head?_trim t, getLast?_trimEnd _⟩
    · rw [trim, ← ht]
      exact List.takeWhile_append_dropWhile.symm
    · intro c hc
      exact List.mem_takeWhile_imp hc

/-! ## Pieces between signs -/

/-- The pieces of a text between the occurrences of a sign. -/
structure Pieces (sign : Char) (t : Text) (pieces : List Text) : Prop where
  nonempty : pieces ≠ []
  joined : [sign].intercalate pieces = t
  free : ∀ piece ∈ pieces, sign ∉ piece

/-- **Splitting finds the pieces of a text.** -/
theorem pieces_iff {sign : Char} {t : Text} {pieces : List Text} :
    Pieces sign t pieces ↔ t.splitOn sign = pieces := by
  constructor
  · rintro ⟨hne, rfl, hfree⟩
    exact List.splitOn_intercalate sign hfree hne
  · rintro rfl
    exact ⟨List.splitOn_ne_nil sign t, List.intercalate_splitOn sign,
      fun piece hpiece => not_mem_of_mem_splitOn hpiece⟩

end Text

namespace Address

open Text

/-! ## Numerals -/

/-- Decimal digits and their value. -/
inductive Digits : Text → Nat → Prop where
  | one {c : Char} (h : c.isDigit = true) : Digits [c] (c.toNat - '0'.toNat)
  | more {t : Text} {n : Nat} {c : Char} (ht : Digits t n) (hc : c.isDigit = true) :
    Digits (t ++ [c]) (10 * n + (c.toNat - '0'.toNat))

/-- Decimal digits, with or without a plus sign in front, and their value. -/
inductive Numeral : Text → Nat → Prop where
  | plain {t : Text} {n : Nat} (h : Digits t n) : Numeral t n
  | plus {t : Text} {n : Nat} (h : Digits t n) : Numeral ('+' :: t) n

theorem Digits.isDigit {t : Text} {n : Nat} (h : Digits t n) : ∀ c ∈ t, c.isDigit = true := by
  induction h with
  | one hc => simpa using hc
  | more _ hc ih =>
    intro d hd
    rcases List.mem_append.mp hd with hd | hd
    · exact ih d hd
    · exact List.mem_singleton.mp hd ▸ hc

theorem Digits.cons_zero {t : Text} {n : Nat} (h : Digits t n) : Digits ('0' :: t) n := by
  induction h with
  | one hc => simpa using Digits.more (.one (c := '0') rfl) hc
  | more _ hc ih => exact ih.more hc

/-- Zeros in front change no value. -/
theorem Digits.zeros_append {t : Text} {n : Nat} (h : Digits t n) (k : Nat) :
    Digits (List.replicate k '0' ++ t) n := by
  induction k with
  | zero => exact h
  | succ k ih => exact ih.cons_zero

theorem digitsValue?_append {t : Text} {c : Char} (ht : t ≠ []) (hc : c.isDigit = true) :
    digitsValue? (t ++ [c]) =
      (digitsValue? t).map fun n => 10 * n + (c.toNat - '0'.toNat) := by
  have hboth : (t ++ [c]).all Char.isDigit = t.all Char.isDigit := by simp [hc]
  by_cases hall : t.all Char.isDigit = true
  · simp [digitsValue?, hboth, hall, ht, Nat.ofDigitChars_append, Nat.ofDigitChars_cons]
  · simp [digitsValue?, hboth, hall]

theorem digitsValue?_eq_some_iff {t : Text} {n : Nat} : digitsValue? t = some n ↔ Digits t n := by
  constructor
  · intro h
    induction t using List.reverseRecOn generalizing n with
    | nil => simp [digitsValue?] at h
    | append_singleton t c ih =>
      have hc : c.isDigit = true := by
        by_contra hc
        simp [digitsValue?, hc] at h
      by_cases ht : t = []
      · subst ht
        obtain rfl : c.toNat - '0'.toNat = n := by
          simpa [digitsValue?, hc, Nat.ofDigitChars_cons] using h
        exact .one hc
      · rw [digitsValue?_append ht hc, Option.map_eq_some_iff] at h
        obtain ⟨m, hm, rfl⟩ := h
        exact (ih hm).more hc
  · intro h
    induction h with
    | one hc => simp [digitsValue?, hc, Nat.ofDigitChars_cons]
    | more ht hc ih =>
      have hne : ∀ {u : Text} {m : Nat}, Digits u m → u ≠ [] := by
        rintro u m (_ | _) <;> simp
      rw [digitsValue?_append (hne ht) hc, ih]
      rfl

theorem number?_eq_some_iff {t : Text} {n : Nat} : number? t = some n ↔ Numeral t n := by
  constructor
  · intro h
    rw [number?.eq_def] at h
    split at h
    · exact .plus (digitsValue?_eq_some_iff.mp h)
    · exact .plain (digitsValue?_eq_some_iff.mp h)
  · rintro (h | h)
    · have hsign : ∀ u, t ≠ '+' :: u := by
        rintro u rfl
        exact absurd (h.isDigit '+' (by simp)) (by decide)
      rw [number?.eq_def]
      split
      · exact absurd rfl (hsign _)
      · exact digitsValue?_eq_some_iff.mpr h
    · exact digitsValue?_eq_some_iff.mpr h

/-! ## Parts -/

/-- A part of an address names a number that a position can have in it. -/
def Names (part : Text) (n : Nat) : Prop :=
  ∃ core, Bare part core ∧ Numeral core n ∧ 1 ≤ n ∧ n ≤ 999

theorem partNumber?_eq_some_iff {part : Text} {n : Nat} :
    partNumber? part = some n ↔ Names part n := by
  have hlast : Position.lastNamed = 999 := rfl
  simp [partNumber?, Names, bare_iff, Option.filter_eq_some_iff, number?_eq_some_iff, hlast]

/-- The part of an address that belongs to an axis: the axes take the first
three parts of each of the first three groups, in their order. -/
def PartOf (t : Text) (a : Axis) (part : Text) : Prop :=
  ∃ core groups group parts, Bare t core ∧ Pieces '/' core groups ∧
    groups[a.index / 3]? = some group ∧ Pieces '.' group parts ∧
    parts[a.index % 3]? = some part

theorem partOf_iff {t part : Text} {a : Axis} : PartOf t a part ↔ part? t a = some part := by
  simp [PartOf, part?, bare_iff, pieces_iff, Option.bind_eq_some_iff]

/-- A part that has no effect, though something is written in it. -/
def Dropped (t : Text) (a : Axis) (part : Text) : Prop :=
  PartOf t a part ∧ (∃ c ∈ part, isBlank c = false) ∧ ¬ ∃ n, Names part n

/-- Whether a part of an address gives no number, though something is written in
it. -/
def isDropped (part : Text) : Bool := !(allBlank part || (partNumber? part).isSome)

theorem isDropped_iff {part : Text} :
    isDropped part = true ↔ (∃ c ∈ part, isBlank c = false) ∧ ¬ ∃ n, Names part n := by
  simp only [← partNumber?_eq_some_iff, ← Option.isSome_iff_exists]
  simp [isDropped, allBlank]

/-- The parts that have no effect, each with its axis, in the order of the
axes. -/
def droppedParts (t : Text) : List (Axis × Text) :=
  Axis.all.filterMap fun a => ((part? t a).filter isDropped).map (a, ·)

theorem mem_droppedParts {t part : Text} {a : Axis} :
    (a, part) ∈ droppedParts t ↔ Dropped t a part := by
  simp [droppedParts, Dropped, partOf_iff, isDropped_iff, Option.filter_eq_some_iff]

theorem pairwise_droppedParts (t : Text) :
    (droppedParts t).Pairwise (fun x y => x.1.index < y.1.index) := by
  refine Axis.pairwise_all.filterMap _ fun a b hab x hx y hy => ?_
  obtain ⟨_, _, rfl⟩ := Option.map_eq_some_iff.mp hx
  obtain ⟨_, _, rfl⟩ := Option.map_eq_some_iff.mp hy
  exact hab

/-- There is a warning for each part that has no effect. -/
theorem addressNotes_eq (s : String) :
    Coordinate.addressNotes s =
      (droppedParts (ofString s)).map fun e => .malformedPart e.1 e.2 := by
  rw [Coordinate.addressNotes, droppedParts, List.map_filterMap]
  refine List.filterMap_congr fun a _ => ?_
  cases part? (ofString s) a with
  | none => rfl
  | some part =>
    rw [note?, Option.bind_some, Option.filter_some, isDropped]
    cases allBlank part || (partNumber? part).isSome with
    | true => rfl
    | false => rfl

/-! ## What has no effect -/

/-- Two addresses that agree on the first three parts of the first three groups,
whatever else stands in either. -/
def Alike (t u : Text) : Prop :=
  ∃ core core' groups groups', Bare t core ∧ Bare u core' ∧ Pieces '/' core groups ∧
    Pieces '/' core' groups' ∧
    List.Forall₂ (fun group group' => ∃ parts parts', Pieces '.' group parts ∧
      Pieces '.' group' parts' ∧ parts.take 3 = parts'.take 3) (groups.take 3) (groups'.take 3)

/-- The first three parts of each of the first three groups. -/
def kept (t : Text) : List (List Text) :=
  ((t.trim.splitOn '/').take 3).map fun group => (group.splitOn '.').take 3

theorem alike_iff {t u : Text} : Alike t u ↔ kept t = kept u := by
  have hmap : ∀ (f : Text → List Text) (l l' : List Text),
      List.Forall₂ (fun g g' => f g = f g') l l' ↔ l.map f = l'.map f := by
    intro f l l'
    rw [← List.forall₂_map_right_iff, ← List.forall₂_map_left_iff (f := f), List.forall₂_eq_eq_eq]
  simp [Alike, kept, bare_iff, pieces_iff, hmap]

theorem part?_eq_kept (t : Text) (a : Axis) :
    part? t a = (kept t)[a.index / 3]?.bind fun parts => parts[a.index % 3]? := by
  have hgroup : a.index / 3 < 3 := by have := a.index_lt; omega
  have hpart : a.index % 3 < 3 := Nat.mod_lt _ (by decide)
  rw [part?, kept, List.getElem?_map, List.getElem?_take_of_lt hgroup, Option.bind_map]
  refine Option.bind_congr fun group _ => ?_
  exact (List.getElem?_take_of_lt hpart).symm

end Address

namespace Coordinate

open Address

/-- The number on an axis is the one that its part names, or else one. -/
theorem get_ofAddress (s : String) (a : Axis) :
    (ofAddress s).get a = ((part? (Text.ofString s) a).bind partNumber?).getD 1 := by
  rw [ofAddress, get_ofPositions, Address.position]
  cases h : (part? (Text.ofString s) a).bind partNumber? with
  | none => rfl
  | some n =>
    obtain ⟨part, _, hn⟩ := Option.bind_eq_some_iff.mp h
    obtain ⟨_, _, _, hone, hlast⟩ := partNumber?_eq_some_iff.mp hn
    exact Position.number_nearest_of_mem hone (Nat.le_trans hlast (by decide))

/-- **An address says what its grammar says.** The number on an axis is the one
that its part names; zeros in front of its digits, however many, do not change
it. It is one where the part names none, or is not there. There is one warning
for each part that names no number and is not blank, in the order of the axes,
and no other. Addresses that agree on the first three parts of the first three
groups lead to one coordinate with the same warnings. -/
theorem ofAddress_by_grammar (s : String) :
    (∀ a part n, PartOf (Text.ofString s) a part → Names part n → (ofAddress s).get a = n) ∧
      (∀ digits n, Digits digits n → ∀ k, Digits (List.replicate k '0' ++ digits) n) ∧
      (∀ a, (¬ ∃ part n, PartOf (Text.ofString s) a part ∧ Names part n) →
        (ofAddress s).get a = 1) ∧
      (∃ dropped : List (Axis × Text),
        addressNotes s = dropped.map (fun e => .malformedPart e.1 e.2) ∧
          dropped.Pairwise (fun x y => x.1.index < y.1.index) ∧
          ∀ a part, (a, part) ∈ dropped ↔ Dropped (Text.ofString s) a part) ∧
      ∀ s', Alike (Text.ofString s) (Text.ofString s') →
        ofAddress s = ofAddress s' ∧ addressNotes s = addressNotes s' := by
  refine ⟨?_, fun _ _ h k => h.zeros_append k, ?_, ?_, ?_⟩
  · intro a part n hpart hn
    rw [get_ofAddress, partOf_iff.mp hpart, Option.bind_some, partNumber?_eq_some_iff.mpr hn]
    rfl
  · intro a hnone
    rw [get_ofAddress]
    cases h : (part? (Text.ofString s) a).bind partNumber? with
    | none => rfl
    | some n =>
      obtain ⟨part, hpart, hn⟩ := Option.bind_eq_some_iff.mp h
      exact absurd ⟨part, n, partOf_iff.mpr hpart, partNumber?_eq_some_iff.mp hn⟩ hnone
  · exact ⟨droppedParts (Text.ofString s), addressNotes_eq s, pairwise_droppedParts _,
      fun _ _ => mem_droppedParts⟩
  · intro s' halike
    have hparts : part? (Text.ofString s) = part? (Text.ofString s') :=
      funext fun a => by rw [part?_eq_kept, part?_eq_kept, alike_iff.mp halike]
    simp only [ofAddress, addressNotes, hparts, and_self]

/-- An address with a part of each kind: a numeral with zeros and a plus sign in
front, a blank, a number out of range, a fourth part, a minus sign, two words, an
ideographic space before a numeral, and two groups too many. -/
def motley : String := " +0007. .1000.9/-1.x y.\u3000999 /2//7 "

/-- The same without what has no effect. -/
def motleyAlone : String := "+0007. .1000/-1.x y.\u3000999 /2"

theorem ofAddress_by_grammar_motley :
    PartOf (Text.ofString motley) .library ['+', '0', '0', '0', '7'] ∧
      Names ['+', '0', '0', '0', '7'] 7 ∧ (ofAddress motley).get .library = 7 ∧
      Digits ['7'] 7 ∧ Digits (List.replicate 3 '0' ++ ['7']) 7 ∧
      (¬ ∃ part n, PartOf (Text.ofString motley) .sect part ∧ Names part n) ∧
      (ofAddress motley).get .sect = 1 ∧
      Alike (Text.ofString motley) (Text.ofString motleyAlone) ∧
      addressNotes motley = [.malformedPart .series ['1', '0', '0', '0'],
        .malformedPart .collection ['-', '1'], .malformedPart .volume ['x', ' ', 'y']] ∧
      addressNotes motleyAlone = addressNotes motley := by
  obtain ⟨hnamed, hzeros, hunnamed, _, halike⟩ := ofAddress_by_grammar motley
  have hpart : PartOf (Text.ofString motley) .library ['+', '0', '0', '0', '7'] :=
    partOf_iff.mpr rfl
  have hseven : Names ['+', '0', '0', '0', '7'] 7 := partNumber?_eq_some_iff.mp rfl
  have hdigits : Digits ['7'] 7 := .one rfl
  have hsame : Alike (Text.ofString motley) (Text.ofString motleyAlone) :=
    alike_iff.mpr (by decide)
  have hnone : ¬ ∃ part n, PartOf (Text.ofString motley) .sect part ∧ Names part n := by
    rintro ⟨part, _, hpart, _⟩
    have habsent : part? (Text.ofString motley) .sect = none := rfl
    rw [partOf_iff, habsent] at hpart
    cases hpart
  exact ⟨hpart, hseven, hnamed _ _ _ hpart hseven, hdigits, hzeros _ _ hdigits 3, hnone,
    hunnamed _ hnone, hsame, rfl, (halike _ hsame).2.symm⟩

end Coordinate

end Ninefold
