import Ninefold.Document
import Ninefold.Proofs.RoundTrip

/-!
# Canonical form

A normalized document is its cells woven. The cells of any document hold no
delimiter and no empty text, so weaving and cutting gives them back, and a
normalized document stays as it is. If no two segments of a document share a
coordinate, its cells are its scrolls; a text with fewer delimiters than an
axis has positions is of that kind, and so is every woven text.
-/

namespace Ninefold

/-! ## The cells of a cut text -/

/-- What lies between delimiters holds none. -/
theorem Scan.free_of_mem_segments {step? : Char → Option Axis} {c : Coordinate} {t : Text}
    {s : Scroll} (h : s ∈ segments step? c t) : ∀ ch ∈ s.text, step? ch = none := by
  induction t using cut_induction (fun ch => (step? ch).isSome) generalizing c with
  | free t hfree =>
    have hnone : ∀ ch ∈ t, step? ch = none := fun ch hch => by simpa using hfree ch hch
    rw [segments_of_free hnone, List.mem_singleton] at h
    exact h ▸ hnone
  | cut u ch t hfree hstep ih =>
    have hnone : ∀ ch ∈ u, step? ch = none := fun ch hch => by simpa using hfree ch hch
    obtain ⟨a, ha⟩ := Option.isSome_iff_exists.mp hstep
    rw [segments_append_cons ha, segments_of_free hnone] at h
    -- the segment is the one before the delimiter, or lies behind it
    rcases List.mem_append.mp h with h | h
    · rw [List.mem_singleton.mp h]
      exact hnone
    · exact ih h

namespace Segments

variable {s : Segments}

/-- A cell is a segment that holds something. -/
theorem mem_scrolls_of_get? {c : Coordinate} {t : Text} (h : s.cells.get? c = some t) :
    ⟨c, t⟩ ∈ s.scrolls := Cells.mem_of_get?_ofScrolls h

theorem full_cells (s : Segments) : s.cells.Full := by
  intro c t h
  have := (List.mem_filter.mp (mem_scrolls_of_get? h)).2
  simpa [Scroll.written] using this

/-- A segment of a text holds no delimiter. -/
theorem firstReserved?_of_mem_all {d : Delimiters} {t : Text} {seg : Scroll}
    (h : seg ∈ (ofText d t).all) : d.firstReserved? seg.text = none := by
  rw [all_ofText] at h
  refine List.find?_eq_none.mpr fun ch hch => ?_
  have := Delimiters.axis?_eq_none_iff.mp (Scan.free_of_mem_segments h ch hch)
  simp [this]

theorem plain_cells (d : Delimiters) (t : Text) : (ofText d t).cells.Plain d := by
  intro c u h
  have hseg := (List.mem_filter.mp (mem_scrolls_of_get? h)).1
  exact firstReserved?_of_mem_all hseg

/-- A text is too short to fill an axis if it is shorter than an axis is long. -/
theorem ascending_of_length {d : Delimiters} {t : Text} (h : t.length < Position.limit) :
    (ofText d t).Ascending := by
  refine ascending_ofText (Coordinate.rising_of_length fun b => ?_)
  have := List.length_filterMap_le d.axis? t
  rw [Coordinate.get_origin]
  omega

/-- The cells of segments are their scrolls exactly if these ascend. -/
theorem scrolls_cells_eq_iff :
    s.cells.scrolls = s.scrolls ↔ s.scrolls.Pairwise fun a b => a.place < b.place := by
  constructor
  · intro h
    rw [← h]
    exact Cells.pairwise_scrolls s.cells
  · intro h
    have hentries : (s.scrolls.map Scroll.entry).Pairwise (fun a b => a.1 < b.1) :=
      List.pairwise_map.mpr h
    rw [cells, Cells.ofScrolls, Table.ofList_of_sorted hentries, Cells.scrolls, List.map_map]
    exact List.map_id _

/-- What is found at a coordinate is a segment there. -/
theorem mem_all_of_text? {c : Coordinate} {t : Text} (h : s.text? c = some t) : ⟨c, t⟩ ∈ s.all := by
  obtain ⟨seg, hfind, rfl⟩ := Option.map_eq_some_iff.mp h
  have hplace : seg.place = c := by simpa using List.find?_some hfind
  exact hplace ▸ List.mem_reverse.mp (List.mem_of_find?_eq_some hfind)

/-! ## Segments that ascend -/

namespace Ascending

variable (h : s.Ascending)

include h

theorem pairwise_scrolls : s.scrolls.Pairwise (fun a b => a.place < b.place) := h.filter _

/-- If no segment shares its coordinate, none is lost among the cells. -/
theorem scrolls_cells : s.cells.scrolls = s.scrolls :=
  scrolls_cells_eq_iff.mpr h.pairwise_scrolls

/-- The text at a coordinate is that of the one segment there. -/
theorem text?_eq_some_iff {c : Coordinate} {t : Text} : s.text? c = some t ↔ ⟨c, t⟩ ∈ s.all := by
  constructor
  · exact mem_all_of_text?
  · intro hmem
    cases hfind : s.all.reverse.find? (·.place = c) with
    | none =>
      have := List.find?_eq_none.mp hfind ⟨c, t⟩ (List.mem_reverse.mpr hmem)
      simp at this
    | some seg =>
      have hplace : seg.place = c := by simpa using List.find?_some hfind
      have hseg := List.mem_reverse.mp (List.mem_of_find?_eq_some hfind)
      -- two segments at one coordinate are one
      have hsame : seg = ⟨c, t⟩ := KeyOrder.eq_of_key_eq Scroll.place h hseg hmem hplace
      rw [text?, hfind, hsame]
      rfl

/-- The cell at a coordinate is the text there, unless that is empty. -/
theorem get?_cells (c : Coordinate) : s.cells.get? c = (s.text? c).filter (!·.isEmpty) := by
  ext t
  have hscroll : s.cells.get? c = some t ↔ ⟨c, t⟩ ∈ s.scrolls := by
    rw [← h.scrolls_cells, Cells.mem_scrolls_iff]
  rw [hscroll, Option.filter_eq_some_iff, h.text?_eq_some_iff]
  exact List.mem_filter

theorem getD_text? (c : Coordinate) : (s.text? c).getD [] = (s.cells.get? c).getD [] := by
  rw [h.get?_cells]
  cases s.text? c with
  | none => rfl
  | some t => cases t <;> rfl

end Ascending

end Segments

/-! ## Documents of given cells -/

namespace Document

@[simp] theorem delimiters_ofCells (doc : Document) (cells : Cells) :
    (doc.ofCells cells).delimiters = doc.delimiters := by
  rw [ofCells]

@[simp] theorem raw_ofCells (doc : Document) (cells : Cells) :
    (doc.ofCells cells).raw = weave doc.delimiters cells := by
  rw [ofCells]

section OfCells

variable {doc : Document} {cells : Cells} (h : cells.Plain doc.delimiters)

include h

theorem ascending_ofCells : (doc.ofCells cells).segments.Ascending := by
  rw [segments, raw_ofCells, delimiters_ofCells]
  exact ascending_ofText_weave h

/-- The document of given cells has these for its scrolls. -/
theorem scrolls_ofCells (hfull : cells.Full) : (doc.ofCells cells).scrolls = cells.scrolls := by
  rw [scrolls, segments, raw_ofCells, delimiters_ofCells, scrolls_ofText_weave h,
    hfull.filter_scrolls]

theorem cells_ofCells (hfull : cells.Full) : (doc.ofCells cells).cells = cells := by
  have hscrolls : (doc.ofCells cells).cells.scrolls = cells.scrolls :=
    (ascending_ofCells h).scrolls_cells.trans (scrolls_ofCells h hfull)
  exact Cells.scrolls_injective hscrolls

end OfCells

/-- What is selected, none read as empty, is what the cells hold. -/
theorem getD_select {doc : Document} (h : doc.segments.Ascending) (c : Coordinate) :
    (doc.select c).getD [] = (doc.cells.get? c).getD [] := h.getD_text? c

/-! ## Normalizing -/

theorem plain_cells (doc : Document) : doc.cells.Plain doc.delimiters :=
  Segments.plain_cells doc.delimiters doc.raw

theorem full_cells (doc : Document) : doc.cells.Full := Segments.full_cells doc.segments

@[simp] theorem delimiters_normalize (doc : Document) :
    doc.normalize.delimiters = doc.delimiters := delimiters_ofCells doc doc.cells

theorem cells_normalize (doc : Document) : doc.normalize.cells = doc.cells :=
  cells_ofCells doc.plain_cells doc.full_cells

theorem scrolls_normalize {doc : Document} (h : doc.segments.Ascending) :
    doc.normalize.scrolls = doc.scrolls := by
  rw [normalize, scrolls_ofCells doc.plain_cells doc.full_cells]
  exact h.scrolls_cells

/-- A normalized document stays as it is. -/
theorem normalize_normalize (doc : Document) : doc.normalize.normalize = doc.normalize := by
  rw [normalize, cells_normalize, ofCells, delimiters_normalize, normalize, ofCells]

theorem raw_normalize_eq_iff {a b : Document} (hd : a.delimiters = b.delimiters)
    (ha : a.segments.Ascending) (hb : b.segments.Ascending) :
    a.normalize.raw = b.normalize.raw ↔ a.scrolls = b.scrolls := by
  constructor
  · intro hraw
    rw [← scrolls_normalize ha, ← scrolls_normalize hb, scrolls, scrolls, segments, segments,
      hraw, delimiters_normalize, delimiters_normalize, hd]
  · intro hscrolls
    have hcells : a.cells = b.cells := congrArg Cells.ofScrolls hscrolls
    rw [normalize, normalize, raw_ofCells, raw_ofCells, hd, hcells]

/-- **Normalizing gives a canonical form.** For texts with fewer characters
than an axis has positions it keeps the scrolls, leaves a normalized document
as it is, and gives two documents of the same delimiters the same text exactly
if they have the same scrolls. -/
theorem normalize_canonical {a b : Document} (hd : a.delimiters = b.delimiters)
    (ha : a.raw.length < Position.limit) (hb : b.raw.length < Position.limit) :
    a.normalize.scrolls = a.scrolls ∧ a.normalize.normalize = a.normalize ∧
      (a.normalize.raw = b.normalize.raw ↔ a.scrolls = b.scrolls) := by
  have hasc : a.segments.Ascending := Segments.ascending_of_length ha
  have hbsc : b.segments.Ascending := Segments.ascending_of_length hb
  exact ⟨scrolls_normalize hasc, normalize_normalize a, raw_normalize_eq_iff hd hasc hbsc⟩

theorem normalize_canonical_empty_structure :
    (Document.ofText ['\x17', 'a', '\x18']).delimiters =
        (Document.ofText ['\x17', 'a']).delimiters ∧
      (Document.ofText ['\x17', 'a', '\x18']).raw.length < Position.limit ∧
      (Document.ofText ['\x17', 'a']).raw.length < Position.limit ∧
      (Document.ofText ['\x17', 'a', '\x18']).normalize.raw =
        (Document.ofText ['\x17', 'a']).normalize.raw :=
  ⟨rfl, by decide, by decide,
    (normalize_canonical (a := .ofText ['\x17', 'a', '\x18']) (b := .ofText ['\x17', 'a']) rfl
      (by decide) (by decide)).2.2.mpr (by decide)⟩

end Document

end Ninefold
