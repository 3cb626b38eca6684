import Ninefold.Proofs.Scan
import Ninefold.Proofs.Stream
import Ninefold.Proofs.Table

/-!
# Reading back what was woven

A scan over a woven text meets, at each step, an empty segment, and behind the
steps to a cell the text of the cell at its coordinate. So the scrolls of a
woven text are its cells with text, whatever the coordinates, and none of its
segments shares its coordinate with another.
-/

namespace Ninefold

namespace Scan

open Coordinate

variable {step? : Char → Option Axis}

/-- Text in front of a delimiter, or of the end, is a segment of its own. -/
theorem written_free_append {t u : Text} (ht : ∀ ch ∈ t, step? ch = none)
    (hu : ∀ ch ∈ u.head?, step? ch ≠ none) (c : Coordinate) :
    (segments step? c (t ++ u)).filter Scroll.written =
      [⟨c, t⟩].filter Scroll.written ++ (segments step? c u).filter Scroll.written := by
  cases u with
  | nil =>
    rw [List.append_nil, segments_of_free ht]
    simp [segments, Scroll.written]
  | cons ch u =>
    obtain ⟨a, ha⟩ := Option.ne_none_iff_exists'.mp (hu ch rfl)
    rw [segments_append_cons ha, segments_cons ha, segments_of_free ht, last_of_free ht,
      List.filter_append]
    rfl

/-- Delimiters alone write nothing, and lead where their steps lead. -/
theorem written_steps_append (d : Delimiters) (as : List Axis) (c : Coordinate) (t : Text) :
    (segments d.axis? c (as.map d.char ++ t)).filter Scroll.written =
      (segments d.axis? (as.foldl advance c) t).filter Scroll.written := by
  induction as generalizing c with
  | nil => rfl
  | cons a rest ih =>
    rw [List.map_cons, List.cons_append, segments_cons (d.axis?_char a), List.foldl_cons, ← ih]
    rfl

end Scan

namespace Weave

open Coordinate

/-- The origin comes first. -/
theorem origin_le (c : Coordinate) : origin = c ∨ origin < c := by
  by_cases h : origin < c
  · exact .inr h
  · refine .inl (KeyOrder.connected h fun hlt => ?_)
    obtain ⟨a, _, ha⟩ := lt_iff_exists.mp hlt
    have := c.one_le_get a
    rw [get_origin] at ha
    omega

/-- Cells that can be stepped to one after another from a coordinate on: they
ascend, none lies before it, and their texts hold no delimiter. -/
structure Ahead (d : Delimiters) (p : Coordinate) (layer : Layer) : Prop where
  sorted : layer.Pairwise (fun a b => a.1 < b.1)
  start : ∀ e ∈ layer, p = e.1 ∨ p < e.1
  free : ∀ e ∈ layer, ∀ ch ∈ e.2, d.axis? ch = none

namespace Ahead

variable {d : Delimiters} {p c : Coordinate} {t : Text} {rest : Layer}

theorem lt_of_mem (h : Ahead d p ((c, t) :: rest)) : ∀ e ∈ rest, c < e.1 :=
  (List.pairwise_cons.mp h.sorted).1

theorem tail (h : Ahead d p ((c, t) :: rest)) : Ahead d c rest where
  sorted := (List.pairwise_cons.mp h.sorted).2
  start e he := .inr (h.lt_of_mem e he)
  free e he := h.free e (by simp [he])

/-- The steps in front of the first cell lead to it. -/
theorem leads (h : Ahead d p ((c, t) :: rest)) : Leads p (steps Axis.all p c) c :=
  leads_steps (List.nil_append Axis.all) (h.start (c, t) (by simp)) (by simp)

theorem free_head (h : Ahead d p ((c, t) :: rest)) : ∀ ch ∈ t, d.axis? ch = none :=
  h.free (c, t) (by simp)

end Ahead

/-- A later cell is stepped to by a delimiter. -/
theorem head?_stream (d : Delimiters) {p : Coordinate} {layer : Layer}
    (hp : ∀ e ∈ layer, p < e.1) :
    ∀ ch ∈ (stream d Axis.all p layer).head?, d.axis? ch ≠ none := by
  intro ch hch
  cases layer with
  | nil => simp [stream] at hch
  | cons cell rest =>
    have hlt : p < cell.1 := hp cell (by simp)
    have hlead := (leads_steps (List.nil_append Axis.all) (.inr hlt) (by simp)).2
    cases hsteps : steps Axis.all p cell.1 with
    | nil =>
      -- without a step the cell would lie at `p`
      rw [hsteps] at hlead
      exact absurd hlead (KeyOrder.ne_of_lt hlt)
    | cons a as =>
      have hhead : ch = d.char a := by
        simpa [stream, hsteps, eq_comm] using hch
      rw [hhead, d.axis?_char]
      exact Option.some_ne_none a

/-- A scan over the stream of a layer writes the cells of the layer that hold
anything. -/
theorem Ahead.written_stream {d : Delimiters} {p : Coordinate} {layer : Layer}
    (h : Ahead d p layer) :
    (Scan.segments d.axis? p (stream d Axis.all p layer)).filter Scroll.written =
      (layer.map Scroll.ofEntry).filter Scroll.written := by
  induction layer generalizing p with
  | nil => simp [stream, Scan.segments, Scroll.written]
  | cons cell rest ih =>
    obtain ⟨c, t⟩ := cell
    -- the steps write nothing and lead to `c`, and its text ends where the
    -- next steps begin
    rw [stream, List.append_assoc, Scan.written_steps_append, h.leads.2,
      Scan.written_free_append h.free_head (head?_stream d h.lt_of_mem), ih h.tail,
      List.map_cons, ← List.filter_append]
    rfl

/-- The steps in the stream of a layer meet no full axis. -/
theorem Ahead.rising_stream {d : Delimiters} {p : Coordinate} {layer : Layer}
    (h : Ahead d p layer) : Rising p ((stream d Axis.all p layer).filterMap d.axis?) := by
  induction layer generalizing p with
  | nil => trivial
  | cons cell rest ih =>
    obtain ⟨c, t⟩ := cell
    have hsteps : ((steps Axis.all p c).map d.char).filterMap d.axis? = steps Axis.all p c := by
      simp [List.filterMap_map]
    have htext : t.filterMap d.axis? = [] := List.filterMap_eq_nil_iff.mpr h.free_head
    rw [stream, List.filterMap_append, List.filterMap_append, hsteps, htext, List.append_nil]
    exact rising_append.mpr ⟨h.leads.1, h.leads.2.symm ▸ ih h.tail⟩

end Weave

/-! ## Tables of cells -/

/-- No text of the table holds a delimiter. -/
def Cells.Plain (d : Delimiters) (cells : Cells) : Prop :=
  ∀ c t, cells.get? c = some t → d.firstReserved? t = none

/-- No text of the table is empty. -/
def Cells.Full (cells : Cells) : Prop := ∀ c t, cells.get? c = some t → t ≠ []

theorem Delimiters.axis?_of_plain {d : Delimiters} {t : Text} (h : d.firstReserved? t = none) :
    ∀ ch ∈ t, d.axis? ch = none := by
  intro ch hch
  rw [axis?_eq_none_iff, ← Bool.not_eq_true, reserves_iff]
  rintro ⟨a, ha⟩
  exact firstReserved?_eq_none_iff.mp h ch hch a ha

/-- The cells of a table lie ahead of the origin. -/
theorem Cells.Plain.ahead {d : Delimiters} {cells : Cells} (h : cells.Plain d) :
    Weave.Ahead d .origin cells.entries where
  sorted := cells.sorted
  start e _ := Weave.origin_le e.1
  free _ he := Delimiters.axis?_of_plain (h _ _ (Table.get?_eq_some_iff.mpr he))

theorem Cells.mem_scrolls_iff {cells : Cells} {s : Scroll} :
    s ∈ cells.scrolls ↔ cells.get? s.place = some s.text := by
  rw [Table.get?_eq_some_iff, Cells.scrolls, List.mem_map]
  constructor
  · rintro ⟨e, he, rfl⟩
    exact he
  · exact fun h => ⟨_, h, rfl⟩

theorem Cells.scrolls_injective {cells cells' : Cells} (h : cells.scrolls = cells'.scrolls) :
    cells = cells' := by
  apply Table.ext_get?
  intro c
  ext t
  have hmem : ⟨c, t⟩ ∈ cells.scrolls ↔ cells.get? c = some t := Cells.mem_scrolls_iff
  rw [← hmem, h]
  exact Cells.mem_scrolls_iff

theorem Cells.pairwise_scrolls (cells : Cells) :
    cells.scrolls.Pairwise (fun a b => a.place < b.place) :=
  List.pairwise_map.mpr cells.sorted

theorem Cells.Full.filter_scrolls {cells : Cells} (h : cells.Full) :
    cells.scrolls.filter Scroll.written = cells.scrolls := by
  refine List.filter_eq_self.mpr fun s hs => ?_
  have := h _ _ (Cells.mem_scrolls_iff.mp hs)
  simpa [Scroll.written] using this

/-- No two segments lie at one coordinate, and they come in order. -/
def Segments.Ascending (s : Segments) : Prop := s.all.Pairwise (fun a b => a.place < b.place)

/-- The segments of a text ascend if its steps meet no full axis. -/
theorem Segments.ascending_ofText {d : Delimiters} {t : Text}
    (h : Coordinate.Rising .origin (t.filterMap d.axis?)) : (ofText d t).Ascending := by
  have hplaces := h.pairwise
  rw [← Scan.map_place_segments d.axis?, List.pairwise_map] at hplaces
  rw [Ascending, all_ofText]
  exact hplaces

section Woven

variable {d : Delimiters} {cells : Cells} (h : cells.Plain d)

include h

/-- The scrolls of a woven text are the cells that hold anything. -/
theorem scrolls_ofText_weave :
    (Segments.ofText d (weave d cells)).scrolls = cells.scrolls.filter Scroll.written := by
  rw [Segments.scrolls, Segments.all_ofText, weave_eq_stream]
  exact h.ahead.written_stream

/-- The segments of a woven text ascend. -/
theorem ascending_ofText_weave : (Segments.ofText d (weave d cells)).Ascending := by
  refine Segments.ascending_ofText ?_
  rw [weave_eq_stream]
  exact h.ahead.rising_stream

end Woven

/-! ## Lists of cells -/

namespace Scroll

/-- The scrolls of a list that no later one at the same coordinate replaces. -/
def lasting : List Scroll → List Scroll
  | [] => []
  | s :: rest => if rest.any (·.place = s.place) then lasting rest else s :: lasting rest

theorem mem_of_mem_lasting {s : Scroll} {ss : List Scroll} (h : s ∈ lasting ss) : s ∈ ss := by
  induction ss with
  | nil => exact h
  | cons r rest ih =>
    rw [lasting] at h
    split at h
    · exact List.mem_cons_of_mem r (ih h)
    · rcases List.mem_cons.mp h with rfl | h
      · simp
      · exact List.mem_cons_of_mem r (ih h)

theorem pairwise_lasting (ss : List Scroll) :
    (lasting ss).Pairwise (fun a b => a.place ≠ b.place) := by
  induction ss with
  | nil => exact .nil
  | cons r rest ih =>
    rw [lasting]
    split
    · exact ih
    · next hnone =>
      refine List.pairwise_cons.mpr ⟨fun s hs he => hnone ?_, ih⟩
      simpa using ⟨s, mem_of_mem_lasting hs, he.symm⟩

end Scroll

namespace Cells

theorem get?_ofScrolls_cons (s : Scroll) (rest : List Scroll) (c : Coordinate) :
    (ofScrolls (s :: rest)).get? c =
      if c = s.place then some (((ofScrolls rest).get? s.place).getD s.text)
      else (ofScrolls rest).get? c :=
  Table.get?_ofList_cons s.place c s.text _

theorem isSome_get?_ofScrolls (ss : List Scroll) (c : Coordinate) :
    ((ofScrolls ss).get? c).isSome = ss.any (·.place = c) := by
  induction ss with
  | nil => rfl
  | cons s rest ih =>
    rw [get?_ofScrolls_cons]
    by_cases hc : c = s.place
    · simp [hc]
    · simp [hc, Ne.symm hc, ih]

/-- The table of a list holds the scrolls that last. -/
theorem get?_ofScrolls_eq_some_iff {ss : List Scroll} {c : Coordinate} {t : Text} :
    (ofScrolls ss).get? c = some t ↔ ⟨c, t⟩ ∈ Scroll.lasting ss := by
  induction ss with
  | nil => simp [ofScrolls, Scroll.lasting]
  | cons s rest ih =>
    have hany := isSome_get?_ofScrolls rest s.place
    rw [get?_ofScrolls_cons, Scroll.lasting]
    by_cases hc : c = s.place
    · subst hc
      cases hget : (ofScrolls rest).get? s.place with
      | none =>
        -- no later scroll lies there, so this one lasts
        rw [hget] at hany ih
        have hfresh : ⟨s.place, t⟩ ∉ Scroll.lasting rest := fun hm => by simp at ih; exact ih hm
        rw [if_pos rfl, if_neg (by rw [← hany]; simp), List.mem_cons]
        simp only [hfresh, or_false, Option.getD_none, Option.some_inj]
        exact ⟨fun h => by rw [← h], fun h => by rw [← h]⟩
      | some u =>
        rw [hget] at hany ih
        rw [if_pos rfl, if_pos (by rw [← hany]; rfl), ← ih]
        rfl
    · have hhead : (⟨c, t⟩ : Scroll) ≠ s := fun h => hc (by rw [← h])
      rw [if_neg hc, ih]
      split
      · rfl
      · simp [hhead]

theorem mem_of_get?_ofScrolls {ss : List Scroll} {c : Coordinate} {t : Text}
    (h : (ofScrolls ss).get? c = some t) : ⟨c, t⟩ ∈ ss :=
  Scroll.mem_of_mem_lasting (get?_ofScrolls_eq_some_iff.mp h)

end Cells

/-- **What was woven is read back.** Weave any list of cells whose texts hold no
delimiter, in any order and at any coordinates, and cut the text again: its
scrolls are the cells of the list that no later one replaces and that hold
anything, in order of their coordinates. -/
theorem scrolls_ofText_weave_ofScrolls (d : Delimiters) (ss : List Scroll)
    (h : ∀ s ∈ ss, ∀ ch ∈ s.text, d.reserves ch = false) :
    (Segments.ofText d (weave d (.ofScrolls ss))).scrolls =
      ((Scroll.lasting ss).filter Scroll.written).mergeSort
        (fun a b => decide (¬ b.place < a.place)) := by
  have hplain : (Cells.ofScrolls ss).Plain d := by
    intro c t hget
    have hs := Scroll.mem_of_mem_lasting (Cells.get?_ofScrolls_eq_some_iff.mp hget)
    exact List.find?_eq_none.mpr fun ch hch => by simp [h _ hs ch hch]
  rw [scrolls_ofText_weave hplain]
  -- both lists ascend, so it is enough that they have the same members
  refine KeyOrder.eq_of_mem_iff Scroll.place ?_ ?_ fun s => ?_
  · exact (Cells.pairwise_scrolls _).filter _
  · exact KeyOrder.pairwise_mergeSort Scroll.place ((Scroll.pairwise_lasting ss).filter _)
  · rw [List.mem_mergeSort, List.mem_filter, List.mem_filter, Cells.mem_scrolls_iff,
      Cells.get?_ofScrolls_eq_some_iff]

/-- Five cells: two at the origin, two behind it of which the later is empty,
and one further on that comes first. -/
def Scroll.fiveCells : List Scroll :=
  [⟨Coordinate.origin.advance .library, ['b']⟩, ⟨.origin, ['a']⟩,
    ⟨Coordinate.origin.advance .scroll, ['x']⟩, ⟨Coordinate.origin.advance .scroll, []⟩,
    ⟨.origin, ['c']⟩]

theorem scrolls_ofText_weave_fiveCells :
    (∀ s ∈ Scroll.fiveCells, ∀ ch ∈ s.text, Delimiters.standard.reserves ch = false) ∧
    ((Scroll.lasting Scroll.fiveCells).filter Scroll.written).mergeSort
        (fun a b => decide (¬ b.place < a.place)) =
      [⟨.origin, ['c']⟩, ⟨Coordinate.origin.advance .library, ['b']⟩] := by
  have hplain :
      ∀ s ∈ Scroll.fiveCells, ∀ ch ∈ s.text, Delimiters.standard.reserves ch = false := by
    simp only [Scroll.fiveCells, List.forall_mem_cons, List.not_mem_nil, false_implies,
      implies_true, and_true]
    decide
  have hread := scrolls_ofText_weave_ofScrolls .standard Scroll.fiveCells hplain
  exact ⟨hplain, hread.symm.trans (by decide)⟩

end Ninefold
