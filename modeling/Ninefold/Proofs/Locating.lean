import Ninefold.Proofs.Canonical

/-!
# Finding one scroll

A document can be asked for one text without listing it: a walk keeps the
scrolls, and beside them the text it met last at the coordinate asked for. The
main statement says that such a walk and the listing never disagree. What is
found at a coordinate is the scroll that is listed there; an empty text is found
where the document has a place without content, and nothing anywhere else, not
even where the cursor comes to rest.
-/

namespace Ninefold

namespace Segments

/-- The state of a walk that looks for a coordinate: the scrolls met so far, the
text met last at that coordinate, and the cursor. -/
structure Search where
  scrolls : List Scroll
  found : Option Text
  cursor : Coordinate
deriving DecidableEq

namespace Search

/-- The search before its first segment. -/
def start : Search := ⟨[], none, .origin⟩

/-- The search after a segment at the cursor. -/
def meet (target : Coordinate) (s : Search) (t : Text) : Search where
  scrolls := if t.isEmpty then s.scrolls else s.scrolls ++ [⟨s.cursor, t⟩]
  found := if target = s.cursor then some t else s.found
  cursor := s.cursor

/-- The search after a piece of an axis. -/
def leave (s : Search) (a : Axis) : Search := { s with cursor := s.cursor.advance a }

/-- The search over a piece of text that is still to be cut on the axes of a
list, coarsest first. -/
def descend (d : Delimiters) (target : Coordinate) : List Axis → Text → Search → Search
  | [], t, s => s.meet target t
  | a :: finer, t, s =>
    (t.splitOn (d.char a)).foldl (fun s piece => (descend d target finer piece s).leave a) s

end Search

/-- A text cut with an eye on one coordinate. The empty text has no scroll, and
one place, the origin. -/
def locate (d : Delimiters) (t : Text) (target : Coordinate) : Search :=
  if t.isEmpty then { Search.start with found := if target = .origin then some [] else none }
  else Search.descend d target Axis.all t .start

/-! ## The search beside the walk -/

/-- What a search keeps of a walk. -/
def Walk.search (w : Walk) (target : Coordinate) : Search where
  scrolls := w.met.reverse.filter Scroll.written
  found := (w.met.find? (·.place = target)).map Scroll.text
  cursor := w.cursor

theorem Walk.search_meet (w : Walk) (target : Coordinate) (t : Text) :
    (w.meet t).search target = (w.search target).meet target t := by
  have hscrolls : (w.meet t).met.reverse.filter Scroll.written =
      if t.isEmpty then w.met.reverse.filter Scroll.written
      else w.met.reverse.filter Scroll.written ++ [⟨w.cursor, t⟩] := by
    cases t <;> simp [Walk.meet, Scroll.written]
  have hfound : ((w.meet t).met.find? (·.place = target)).map Scroll.text =
      if target = w.cursor then some t
      else (w.met.find? (·.place = target)).map Scroll.text := by
    -- the latest segment stands first, so it is the one that is found
    by_cases hc : target = w.cursor
    · simp [Walk.meet, hc]
    · simp [Walk.meet, hc, Ne.symm hc]
  rw [Walk.search, hscrolls, hfound]
  rfl

theorem Walk.search_leave (w : Walk) (target : Coordinate) (a : Axis) :
    (w.leave a).search target = (w.search target).leave a := rfl

/-- Walk and search go side by side, piece after piece. -/
theorem search_descend (d : Delimiters) (target : Coordinate) (axes : List Axis) (t : Text)
    (w : Walk) :
    (descend d axes t w).search target = Search.descend d target axes t (w.search target) := by
  induction axes generalizing t w with
  | nil => exact w.search_meet target t
  | cons a finer ih =>
    -- both go over the same pieces, so it is enough that one piece agrees
    refine (List.foldl_hom (Walk.search · target) fun w piece => ?_).symm
    rw [Walk.search_leave, ih]

/-- A search has the scrolls and the cursor of the cut, and finds what the cut
has last at the coordinate. -/
theorem locate_eq (d : Delimiters) (t : Text) (target : Coordinate) :
    locate d t target = ⟨(ofText d t).scrolls, (ofText d t).text? target, (ofText d t).cursor⟩ := by
  cases t with
  | nil =>
    by_cases hc : target = .origin
    · subst hc
      rfl
    · simp [locate, ofText, Search.start, scrolls, text?, Scroll.written, hc, Ne.symm hc]
  | cons ch t =>
    have hwalk := search_descend d target Axis.all (ch :: t) .start
    show Search.descend d target Axis.all (ch :: t) (Walk.start.search target) = _
    rw [← hwalk, Walk.search]
    simp [ofText, scrolls, text?]

/-! ## What is found -/

theorem mem_scrolls_iff {s : Segments} {c : Coordinate} {t : Text} :
    ⟨c, t⟩ ∈ s.scrolls ↔ ⟨c, t⟩ ∈ s.all ∧ t ≠ [] := by
  simp [scrolls, Scroll.written]

end Segments

namespace Document

/-- The places of a document, in order: what its delimiters part, the empty ones
included. -/
def places (doc : Document) : List Scroll := Scan.segments doc.delimiters.axis? .origin doc.raw

theorem all_segments (doc : Document) : doc.segments.all = doc.places :=
  Segments.all_ofText doc.delimiters doc.raw

/-- The empty text has one place. -/
example (d : Delimiters) : (Document.mk [] d).places = [⟨.origin, []⟩] := rfl

section Short

variable {doc : Document} (h : doc.raw.length < Position.limit)

include h

theorem select_eq_some_iff {c : Coordinate} {t : Text} :
    doc.select c = some t ↔ ⟨c, t⟩ ∈ doc.places := by
  have hasc : doc.segments.Ascending := Segments.ascending_of_length h
  rw [← all_segments]
  exact hasc.text?_eq_some_iff

theorem select_eq_some_iff_of_ne_nil {c : Coordinate} {t : Text} (ht : t ≠ []) :
    doc.select c = some t ↔ ⟨c, t⟩ ∈ doc.scrolls := by
  rw [select_eq_some_iff h, ← all_segments, scrolls, Segments.mem_scrolls_iff]
  simp [ht]

/-- What is neither listed nor an empty place is not found. -/
theorem select_eq_none_iff {c : Coordinate} :
    doc.select c = none ↔ (∀ t, ⟨c, t⟩ ∉ doc.scrolls) ∧ ⟨c, []⟩ ∉ doc.places := by
  constructor
  · intro hnone
    refine ⟨fun t ht => ?_, fun hplace => ?_⟩
    · have hne : t ≠ [] := (Segments.mem_scrolls_iff.mp ht).2
      rw [(select_eq_some_iff_of_ne_nil h hne).mpr ht] at hnone
      cases hnone
    · rw [(select_eq_some_iff h).mpr hplace] at hnone
      cases hnone
  · rintro ⟨hlisted, hplace⟩
    cases hselect : doc.select c with
    | none => rfl
    | some t =>
      -- what was found is listed if it holds anything, and else a place
      by_cases ht : t = []
      · subst ht
        exact absurd ((select_eq_some_iff h).mp hselect) hplace
      · exact absurd ((select_eq_some_iff_of_ne_nil h ht).mp hselect) (hlisted t)

/-- **What is found and what is listed never disagree.** For a text with fewer
characters than an axis has positions, a search for a coordinate has the scrolls
and the cursor of the listing, and what it finds is what the document selects:
a text that holds anything exactly where the listing has that text, the empty
text exactly where a place of the document is empty, and nothing otherwise. So
the selected text, none read as empty, is that of the table of the scrolls. -/
theorem select_agrees_with_scrolls (c : Coordinate) :
    (Segments.locate doc.delimiters doc.raw c).scrolls = doc.scrolls ∧
      (Segments.locate doc.delimiters doc.raw c).cursor = doc.segments.cursor ∧
      (Segments.locate doc.delimiters doc.raw c).found = doc.select c ∧
      (∀ t, t ≠ [] → (doc.select c = some t ↔ ⟨c, t⟩ ∈ doc.scrolls)) ∧
      (doc.select c = some [] ↔ ⟨c, []⟩ ∈ doc.places) ∧
      (doc.select c = none ↔ (∀ t, ⟨c, t⟩ ∉ doc.scrolls) ∧ ⟨c, []⟩ ∉ doc.places) ∧
      (doc.select c).getD [] = (doc.cells.get? c).getD [] := by
  have hasc : doc.segments.Ascending := Segments.ascending_of_length h
  rw [Segments.locate_eq]
  exact ⟨rfl, rfl, rfl, fun t ht => select_eq_some_iff_of_ne_nil h ht, select_eq_some_iff h,
    select_eq_none_iff h, getD_select hasc c⟩

end Short

/-- The text before a lone first delimiter is a place, and the one behind the
last text is none, though the cursor rests there. -/
theorem select_agrees_with_scrolls_lead :
    (ofText ['\x17', 'b']).raw.length < Position.limit ∧
      (ofText ['\x17', 'b']).select .origin = some [] ∧
      (ofText ['\x17', 'b']).segments.cursor = Coordinate.origin.advance .library ∧
      (ofText ['\x17', 'b']).select (Coordinate.origin.advance .library) = none := by
  have hlength : (ofText ['\x17', 'b']).raw.length < Position.limit := by decide
  have hfirst := select_agrees_with_scrolls hlength .origin
  have hrest := select_agrees_with_scrolls hlength (Coordinate.origin.advance .library)
  refine ⟨hlength, hfirst.2.2.2.2.1.mpr (by decide), by decide, ?_⟩
  exact hrest.2.2.1.symm.trans (by decide)

end Document

end Ninefold
