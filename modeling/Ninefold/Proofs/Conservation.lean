import Mathlib
import Ninefold.Proofs.Canonical

/-!
# What a cut keeps

A cut loses nothing of a text but its delimiters: the texts of the segments,
joined, are the text without them. If no two segments share a coordinate, the
table of the scrolls loses nothing either, and lists them in order.
-/

namespace Ninefold

/-- The segments of a text, joined, are what in it is no delimiter. -/
theorem Scan.flatMap_text_segments {step? : Char → Option Axis} (c : Coordinate) (t : Text) :
    (segments step? c t).flatMap Scroll.text = t.filter fun ch => !(step? ch).isSome := by
  induction t using cut_induction (fun ch => (step? ch).isSome) generalizing c with
  | free t hfree =>
    have hnone : ∀ ch ∈ t, step? ch = none := fun ch hch => by simpa using hfree ch hch
    have hkept : t.filter (fun ch => !(step? ch).isSome) = t :=
      List.filter_eq_self.mpr fun ch hch => by simp [hnone ch hch]
    rw [segments_of_free hnone, hkept]
    simp
  | cut u ch t hfree hstep ih =>
    have hnone : ∀ ch ∈ u, step? ch = none := fun ch hch => by simpa using hfree ch hch
    have hkept : u.filter (fun ch => !(step? ch).isSome) = u :=
      List.filter_eq_self.mpr fun ch hch => by simp [hnone ch hch]
    obtain ⟨a, ha⟩ := Option.isSome_iff_exists.mp hstep
    -- the delimiter is in no segment, and what is behind it is cut alike
    rw [segments_append_cons ha, segments_of_free hnone, List.flatMap_append, ih,
      List.filter_append, hkept, List.filter_cons_of_neg (by simp [hstep])]
    simp

namespace Segments

/-- Segments without text add nothing. -/
theorem flatMap_text_scrolls (s : Segments) :
    s.scrolls.flatMap Scroll.text = s.all.flatMap Scroll.text := by
  rw [scrolls]
  induction s.all with
  | nil => rfl
  | cons seg rest ih =>
    by_cases h : seg.text = []
    · rw [List.filter_cons_of_neg (by simp [Scroll.written, h]), ih, List.flatMap_cons, h]
      rfl
    · rw [List.filter_cons_of_pos (by simp [Scroll.written, h]), List.flatMap_cons, ih]
      rfl

/-- The scrolls of a text, joined, are the text without its delimiters. -/
theorem text_scrolls_ofText (d : Delimiters) (t : Text) :
    (ofText d t).scrolls.flatMap Scroll.text = t.filter fun ch => !d.reserves ch := by
  rw [flatMap_text_scrolls, all_ofText, Scan.flatMap_text_segments]
  simp only [Delimiters.isSome_axis?]

/-- Every character of a text is a delimiter or stands in one scroll. -/
theorem sum_length_scrolls (d : Delimiters) (t : Text) :
    ((ofText d t).scrolls.map fun s => s.text.length).sum + t.countP d.reserves = t.length := by
  have hscrolls : ((ofText d t).scrolls.map fun s => s.text.length).sum =
      t.countP fun ch => !d.reserves ch := by
    rw [List.countP_eq_length_filter, ← text_scrolls_ofText, List.length_flatMap]
  have hparts := List.length_eq_countP_add_countP d.reserves (l := t)
  rw [hscrolls]
  simp only [Bool.not_eq_true, Bool.decide_eq_false] at hparts
  omega

/-- **A cut keeps its scrolls apart and loses none.** For a text with fewer
characters than an axis has positions, the coordinates of the scrolls ascend;
so the table of the scrolls has one entry for each, and lists them as they
came. Every character is a delimiter or stands in one of the scrolls. -/
theorem scrolls_ascend_and_last {d : Delimiters} {t : Text} (h : t.length < Position.limit) :
    (ofText d t).scrolls.Pairwise (fun a b => a.place < b.place) ∧
      (ofText d t).cells.entries.length = (ofText d t).scrolls.length ∧
      (ofText d t).cells.scrolls = (ofText d t).scrolls ∧
      ((ofText d t).scrolls.map fun s => s.text.length).sum + t.countP d.reserves = t.length := by
  have hasc : (ofText d t).Ascending := ascending_of_length h
  have hlisted := hasc.scrolls_cells
  have hlength : (ofText d t).cells.entries.length = (ofText d t).scrolls.length := by
    rw [← hlisted, Cells.scrolls, List.length_map]
  exact ⟨hasc.pairwise_scrolls, hlength, hlisted, sum_length_scrolls d t⟩

theorem scrolls_ascend_and_last_two_axes :
    ['\x17', 'a', '\x18', '\x17', 'b'].length < Position.limit ∧
      (ofText .standard ['\x17', 'a', '\x18', '\x17', 'b']).cells.scrolls =
        [⟨Coordinate.origin.advance .scroll, ['a']⟩,
          ⟨(Coordinate.origin.advance .sect).advance .scroll, ['b']⟩] := by
  have hlength : ['\x17', 'a', '\x18', '\x17', 'b'].length < Position.limit := by decide
  have hlisted := (scrolls_ascend_and_last (d := .standard) hlength).2.2.1
  exact ⟨hlength, hlisted.trans (by decide)⟩

end Segments

end Ninefold
