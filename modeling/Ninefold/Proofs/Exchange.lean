import Mathlib
import Ninefold.Proofs.Conservation
import Ninefold.Proofs.Edits

/-!
# Delimiters exchanged

Which nine characters part a text is of no account. Exchange every delimiter of
one set for that of another on the same axis: the text is then cut under the
other set as it was under the first, and what is woven under the other is what
was woven under the first, exchanged. So two documents that are alike but for
their delimiters stay so, edit after edit, and show the same throughout.

All it takes is that no character is text to the one set and a delimiter to the
other. The sets may share characters, on other axes too.
-/

namespace Ninefold

namespace Delimiters

variable {d e : Delimiters} {t : Text} {ch : Char}

/-- A character, a delimiter of the first set made that of the second on the same
axis. -/
def exchange (d e : Delimiters) (ch : Char) : Char :=
  match d.axis? ch with
  | some a => e.char a
  | none => ch

/-- A text with its delimiters exchanged. -/
def recode (d e : Delimiters) (t : Text) : Text := t.map (d.exchange e)

/-- What is text to the first set is text to the second. -/
def Clear (d e : Delimiters) (t : Text) : Prop :=
  ∀ ch ∈ t, d.reserves ch = false → e.reserves ch = false

theorem Clear.axis? (h : Clear d e t) (hch : ch ∈ t) (hnone : d.axis? ch = none) :
    e.axis? ch = none :=
  axis?_eq_none_iff.mpr (h ch hch (axis?_eq_none_iff.mp hnone))

@[simp] theorem exchange_char (d e : Delimiters) (a : Axis) :
    d.exchange e (d.char a) = e.char a := by
  simp [exchange]

theorem exchange_of_free (h : d.axis? ch = none) : d.exchange e ch = ch := by
  simp [exchange, h]

/-- An exchanged delimiter parts siblings on the same axis. -/
theorem axis?_exchange (h : d.axis? ch = none → e.axis? ch = none) :
    e.axis? (d.exchange e ch) = d.axis? ch := by
  cases hch : d.axis? ch with
  | none => rw [exchange_of_free hch, h hch]
  | some a => simp [exchange, hch]

theorem recode_of_free (h : ∀ ch ∈ t, d.axis? ch = none) : d.recode e t = t := by
  have hmap : t.map (d.exchange e) = t.map id :=
    List.map_congr_left fun ch hch => exchange_of_free (h ch hch)
  rw [recode, hmap, List.map_id]

theorem recode_append (d e : Delimiters) (t u : Text) :
    d.recode e (t ++ u) = d.recode e t ++ d.recode e u := List.map_append

end Delimiters

/-! ## Cutting -/

namespace Scan

variable {d e : Delimiters} {t : Text}

theorem filterMap_recode (h : d.Clear e t) :
    (d.recode e t).filterMap e.axis? = t.filterMap d.axis? := by
  rw [Delimiters.recode, List.filterMap_map]
  exact List.filterMap_congr fun ch hch => Delimiters.axis?_exchange (h.axis? hch)

theorem last_recode (h : d.Clear e t) (c : Coordinate) :
    last e.axis? c (d.recode e t) = last d.axis? c t := by
  rw [last, filterMap_recode h, last]

/-- A scan finds the same segments at the same coordinates. -/
theorem segments_recode (h : d.Clear e t) (c : Coordinate) :
    segments e.axis? c (d.recode e t) = segments d.axis? c t := by
  induction t using cut_induction (fun ch => (d.axis? ch).isSome) generalizing c with
  | free t hfree =>
    have hnone : ∀ ch ∈ t, d.axis? ch = none := fun ch hch => by simpa using hfree ch hch
    rw [Delimiters.recode_of_free hnone, segments_of_free hnone,
      segments_of_free fun ch hch => h.axis? hch (hnone ch hch)]
  | cut s ch t hfree hstep ih =>
    have hnone : ∀ ch ∈ s, d.axis? ch = none := fun ch hch => by simpa using hfree ch hch
    obtain ⟨a, ha⟩ := Option.isSome_iff_exists.mp hstep
    have hs : d.Clear e s := fun x hx => h x (by simp [hx])
    have ht : d.Clear e t := fun x hx => h x (by simp [hx])
    -- the delimiter is exchanged, and the segment in front of it is not touched
    have hparts : d.recode e (s ++ ch :: t) = s ++ e.char a :: d.recode e t := by
      obtain rfl := Delimiters.axis?_eq_some_iff.mp ha
      rw [Delimiters.recode_append, Delimiters.recode_of_free hnone]
      simp [Delimiters.recode]
    have hlast : last e.axis? c s = last d.axis? c s := by
      rw [last_of_free hnone, last_of_free fun x hx => hs.axis? hx (hnone x hx)]
    rw [hparts, segments_append_cons (e.axis?_char a), segments_append_cons ha, ih ht, hlast,
      segments_of_free hnone, segments_of_free fun x hx => hs.axis? hx (hnone x hx)]

end Scan

/-- **An exchanged text is cut alike.** -/
theorem Segments.ofText_recode {d e : Delimiters} {t : Text} (h : d.Clear e t) :
    ofText e (d.recode e t) = ofText d t := by
  have hall : (ofText e (d.recode e t)).all = (ofText d t).all := by
    rw [all_ofText, all_ofText, Scan.segments_recode h]
  have hcursor : (ofText e (d.recode e t)).cursor = (ofText d t).cursor := by
    by_cases ht : t = []
    · have hnil : d.recode e t = [] := by rw [ht, Delimiters.recode, List.map_nil]
      have hempty : ∀ f : Delimiters, (ofText f []).cursor = .origin := fun _ => rfl
      rw [hnil, ht, hempty, hempty]
    · have hne : d.recode e t ≠ [] := by simpa [Delimiters.recode] using ht
      rw [cursor_ofText e hne, cursor_ofText d ht, Scan.last_recode h]
  exact congrArg₂ mk hall hcursor

/-! ## Weaving -/

namespace Weave

theorem stream_recode {d e : Delimiters} {layer : Layer}
    (h : ∀ cell ∈ layer, ∀ ch ∈ cell.2, d.axis? ch = none) (axes : List Axis) (p : Coordinate) :
    stream e axes p layer = d.recode e (stream d axes p layer) := by
  induction layer generalizing p with
  | nil => rfl
  | cons cell rest ih =>
    obtain ⟨c, t⟩ := cell
    have hsteps : d.recode e ((steps axes p c).map d.char) = (steps axes p c).map e.char := by
      simp [Delimiters.recode]
    rw [stream, stream, ih (fun cell hcell => h cell (by simp [hcell])), Delimiters.recode_append,
      Delimiters.recode_append, hsteps, Delimiters.recode_of_free (h (c, t) (by simp))]

end Weave

section Woven

variable {d e : Delimiters} {cells : Cells}

/-- What is woven under the second set is what is woven under the first,
exchanged. -/
theorem weave_recode (h : cells.Plain d) : weave e cells = d.recode e (weave d cells) := by
  rw [weave_eq_stream, weave_eq_stream]
  exact Weave.stream_recode h.ahead.free _ _

/-- A woven text is clear if its cells hold no delimiter of either set. -/
theorem Cells.Plain.clear_weave (hd : cells.Plain d) (he : cells.Plain e) :
    d.Clear e (weave d cells) := by
  intro ch hch hfree
  -- a character that is no delimiter stands in one of the cells
  have hkept : ch ∈ (weave d cells).filter fun x => !d.reserves x := by simp [hch, hfree]
  rw [← Segments.text_scrolls_ofText, scrolls_ofText_weave hd] at hkept
  obtain ⟨s, hs, hmem⟩ := List.mem_flatMap.mp hkept
  have hcell := Cells.mem_scrolls_iff.mp (List.mem_of_mem_filter hs)
  simpa using List.find?_eq_none.mp (he _ _ hcell) ch hmem

end Woven

/-! ## Documents -/

/-- An edit of a document. -/
inductive Revision where
  | replace (place : Coordinate) (text : Text)
  | append (place : Coordinate) (text : Text)
  | remove (place : Coordinate)
  | normalize

/-- The text that an edit brings in. -/
def Revision.text : Revision → Text
  | .replace _ t => t
  | .append _ t => t
  | .remove _ => []
  | .normalize => []

namespace Document

variable {doc : Document} {d e : Delimiters} {r : Revision}

/-- The document after an edit, or the character that the edit may not bring
in. -/
def revise (doc : Document) : Revision → Except Char Document
  | .replace c t => doc.replace c t
  | .append c t => doc.append c t
  | .remove c => .ok (doc.remove c)
  | .normalize => .ok doc.normalize

/-- The document after one edit after another. -/
def reviseAll (doc : Document) (rs : List Revision) : Except Char Document := rs.foldlM revise doc

/-- The document with its delimiters exchanged for those of another set. -/
def recode (doc : Document) (e : Delimiters) : Document := ⟨doc.delimiters.recode e doc.raw, e⟩

/-- What is text in the document is text to another set. -/
def Clear (doc : Document) (e : Delimiters) : Prop := doc.delimiters.Clear e doc.raw

theorem clear_self (doc : Document) : doc.Clear doc.delimiters := fun _ _ h => h

/-- The text of a segment is text of the document. -/
theorem Clear.firstReserved?_segment (h : doc.Clear e) {seg : Scroll}
    (hseg : seg ∈ doc.segments.all) : e.firstReserved? seg.text = none := by
  refine List.find?_eq_none.mpr fun ch hch => ?_
  have hkept : ch ∈ doc.segments.all.flatMap Scroll.text :=
    List.mem_flatMap.mpr ⟨seg, hseg, hch⟩
  rw [← Segments.flatMap_text_scrolls, segments, Segments.text_scrolls_ofText,
    List.mem_filter] at hkept
  simp [h ch hkept.1 (by simpa using hkept.2)]

theorem Clear.plain_cells (h : doc.Clear e) : doc.cells.Plain e := by
  intro c t hcell
  have hseg := (List.mem_filter.mp (Segments.mem_scrolls_of_get? hcell)).1
  exact h.firstReserved?_segment hseg

theorem Clear.firstReserved?_selected (h : doc.Clear e) (c : Coordinate) :
    e.firstReserved? ((doc.select c).getD []) = none := by
  cases hselect : doc.select c with
  | none => rfl
  | some t => exact h.firstReserved?_segment (Segments.mem_all_of_text? hselect)

/-! ### An edit as new cells -/

/-- The cells of a document after an edit. -/
def revisedCells (doc : Document) : Revision → Cells
  | .replace c t => doc.cells.write c t
  | .append c t => doc.cells.write c ((doc.select c).getD [] ++ t)
  | .remove c => doc.cells.write c []
  | .normalize => doc.cells

/-- An edit that brings in no delimiter weaves the new cells. -/
theorem revise_eq (h : doc.delimiters.firstReserved? r.text = none) :
    doc.revise r = .ok (doc.ofCells (doc.revisedCells r)) := by
  cases r with
  | replace c t => exact replace_eq h
  | append c t =>
    have hjoined : doc.delimiters.firstReserved? ((doc.select c).getD [] ++ t) = none :=
      Delimiters.firstReserved?_append_eq_none_iff.mpr
        ⟨(clear_self doc).firstReserved?_selected c, h⟩
    have hplain : doc.delimiters.firstReserved? t = none := h
    rw [revise, append, hplain]
    exact replace_eq hjoined
  | remove c => rfl
  | normalize => rfl

theorem Clear.plain_revisedCells (h : doc.Clear e) (hr : e.firstReserved? r.text = none) :
    (doc.revisedCells r).Plain e := by
  cases r with
  | replace c t => exact h.plain_cells.write hr
  | append c t =>
    exact h.plain_cells.write
      (Delimiters.firstReserved?_append_eq_none_iff.mpr ⟨h.firstReserved?_selected c, hr⟩)
  | remove c => exact h.plain_cells.write rfl
  | normalize => exact h.plain_cells

/-! ### Two documents side by side -/

/-- An exchanged document has the same segments. -/
theorem Clear.segments_recode (h : doc.Clear e) : (doc.recode e).segments = doc.segments :=
  Segments.ofText_recode h

theorem Clear.select_recode (h : doc.Clear e) (c : Coordinate) :
    (doc.recode e).select c = doc.select c := by
  rw [select, h.segments_recode, select]

theorem Clear.revisedCells_recode (h : doc.Clear e) (r : Revision) :
    (doc.recode e).revisedCells r = doc.revisedCells r := by
  have hcells : (doc.recode e).cells = doc.cells := by rw [cells, h.segments_recode, cells]
  cases r <;> simp only [revisedCells, hcells, h.select_recode]

theorem ofCells_recode {cells : Cells} (h : cells.Plain doc.delimiters) :
    (doc.recode e).ofCells cells = (doc.ofCells cells).recode e := by
  rw [recode, recode, raw_ofCells, delimiters_ofCells, ← weave_recode h]
  rfl

/-- **An edit goes alike in both documents.** -/
theorem Clear.revise (h : doc.Clear e) (hd : doc.delimiters.firstReserved? r.text = none)
    (he : e.firstReserved? r.text = none) :
    ∃ after, doc.revise r = .ok after ∧ after.delimiters = doc.delimiters ∧ after.Clear e ∧
      (doc.recode e).revise r = .ok (after.recode e) := by
  have hplain : (doc.revisedCells r).Plain doc.delimiters := (clear_self doc).plain_revisedCells hd
  refine ⟨doc.ofCells (doc.revisedCells r), revise_eq hd, delimiters_ofCells doc _, ?_, ?_⟩
  · rw [Clear, raw_ofCells, delimiters_ofCells]
    exact hplain.clear_weave (h.plain_revisedCells he)
  · have hother : (doc.recode e).revise r =
        .ok ((doc.recode e).ofCells ((doc.recode e).revisedCells r)) := revise_eq he
    rw [hother, h.revisedCells_recode, ofCells_recode hplain]

/-- So does a run of edits. -/
theorem Clear.reviseAll (h : doc.Clear e) {rs : List Revision}
    (hrs : ∀ r ∈ rs, doc.delimiters.firstReserved? r.text = none ∧
      e.firstReserved? r.text = none) :
    ∃ after, doc.reviseAll rs = .ok after ∧ after.delimiters = doc.delimiters ∧ after.Clear e ∧
      (doc.recode e).reviseAll rs = .ok (after.recode e) := by
  induction rs generalizing doc with
  | nil => exact ⟨doc, rfl, rfl, h, rfl⟩
  | cons r rest ih =>
    obtain ⟨hd, he⟩ := hrs r (by simp)
    obtain ⟨next, hnext, hsame, hclear, hnext'⟩ := h.revise hd he
    obtain ⟨after, hafter, hsame', hclear', hafter'⟩ :=
      ih hclear fun r hr => hsame ▸ hrs r (by simp [hr])
    refine ⟨after, ?_, hsame'.trans hsame, hclear', ?_⟩
    · rw [reviseAll, List.foldlM_cons, hnext]
      exact hafter
    · rw [reviseAll, List.foldlM_cons, hnext']
      exact hafter'

/-- **The choice of delimiters is immaterial.** Take a text in which no character
is text to one set of delimiters and a delimiter to another, and exchange its
delimiters. It is cut under the other set into the same segments, empty ones
included, at the same coordinates, with the cursor at the same place. After any beginning of any run
of edits that bring in no delimiter of either set, the two documents still differ
by the exchange alone, and the same is selected from both at every coordinate. -/
theorem exchange_immaterial {d e : Delimiters} {raw : Text}
    (h : ∀ ch ∈ raw, d.reserves ch = false → e.reserves ch = false) :
    (Segments.ofText e (d.recode e raw)).all = (Segments.ofText d raw).all ∧
      (Segments.ofText e (d.recode e raw)).cursor = (Segments.ofText d raw).cursor ∧
      ∀ rs : List Revision,
        (∀ r ∈ rs, ∀ ch ∈ r.text, d.reserves ch = false ∧ e.reserves ch = false) →
        ∀ made, made <+: rs →
        ∃ after, (Document.mk raw d).reviseAll made = .ok after ∧ after.delimiters = d ∧
          (Document.mk (d.recode e raw) e).reviseAll made = .ok ⟨d.recode e after.raw, e⟩ ∧
          ∀ c, (Document.mk (d.recode e after.raw) e).select c = after.select c := by
  have hcut : Segments.ofText e (d.recode e raw) = Segments.ofText d raw :=
    Segments.ofText_recode h
  refine ⟨by rw [hcut], by rw [hcut], fun rs hrs made hmade => ?_⟩
  have hclear : (Document.mk raw d).Clear e := h
  have hplain : ∀ r ∈ made, d.firstReserved? r.text = none ∧ e.firstReserved? r.text = none := by
    intro r hr
    have hfree := hrs r (hmade.subset hr)
    constructor
    · exact Delimiters.firstReserved?_eq_none_of_free fun ch hch => by simp [(hfree ch hch).1]
    · exact Delimiters.firstReserved?_eq_none_of_free fun ch hch => by simp [(hfree ch hch).2]
  obtain ⟨after, hafter, hsame, hclear', hafter'⟩ := hclear.reviseAll hplain
  have hrecode : after.recode e = ⟨d.recode e after.raw, e⟩ := by rw [recode, hsame]
  have hshown := hclear'.select_recode
  rw [hrecode] at hafter' hshown
  exact ⟨after, hafter, hsame, hafter', hshown⟩

end Document

/-- The standard delimiters with the two ends exchanged, and a letter for one in
between. -/
def Delimiters.endsSwapped : Delimiters where
  char
    | .library => '\x17'
    | .scroll => '\x01'
    | .book => 'x'
    | a => standardChar a
  distinct := fun {a b} h => by cases a <;> cases b <;> first | rfl | (revert h; decide)
  lineFree := fun a => by cases a <;> decide

/-- Edits of each kind. -/
def Revision.ofEachKind : List Revision :=
  [.append .origin ['c'], .remove (Coordinate.origin.advance .scroll), .normalize,
    .replace (Coordinate.origin.advance .book) ['d']]

namespace Document

theorem exchange_immaterial_endsSwapped :
    (∀ ch ∈ ['a', '\x17', '\x1a', 'b', '\x01'], Delimiters.standard.reserves ch = false →
        Delimiters.endsSwapped.reserves ch = false) ∧
      (∀ r ∈ Revision.ofEachKind, ∀ ch ∈ r.text, Delimiters.standard.reserves ch = false ∧
        Delimiters.endsSwapped.reserves ch = false) ∧
      Revision.ofEachKind <+: Revision.ofEachKind ∧
      (Document.mk ['a', '\x01', 'x', 'b', '\x17'] .endsSwapped).reviseAll Revision.ofEachKind =
        .ok ⟨['a', 'c', 'x', 'd'], .endsSwapped⟩ ∧
      (Document.mk ['a', '\x17', '\x1a', 'b', '\x01'] .standard).reviseAll Revision.ofEachKind =
        .ok ⟨['a', 'c', '\x1a', 'd'], .standard⟩ := by
  have hclear : ∀ ch ∈ ['a', '\x17', '\x1a', 'b', '\x01'],
      Delimiters.standard.reserves ch = false → Delimiters.endsSwapped.reserves ch = false := by
    simp only [List.forall_mem_cons, List.not_mem_nil, false_implies, implies_true, and_true]
    decide
  have hplain : ∀ r ∈ Revision.ofEachKind, ∀ ch ∈ r.text,
      Delimiters.standard.reserves ch = false ∧ Delimiters.endsSwapped.reserves ch = false := by
    simp only [Revision.ofEachKind, List.forall_mem_cons, Revision.text, List.not_mem_nil,
      false_implies, implies_true, and_true]
    decide
  obtain ⟨after, hafter, _, hother, _⟩ :=
    (exchange_immaterial hclear).2.2 _ hplain _ List.prefix_rfl
  have hshown : (Document.mk ['a', '\x17', '\x1a', 'b', '\x01'] .standard).reviseAll
      Revision.ofEachKind = .ok ⟨['a', 'c', '\x1a', 'd'], .standard⟩ := by decide
  obtain rfl := Except.ok.inj (hafter.symm.trans hshown)
  exact ⟨hclear, hplain, List.prefix_rfl, hother, hshown⟩

end Document

end Ninefold
