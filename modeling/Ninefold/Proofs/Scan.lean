import Mathlib.Data.List.Basic
import Mathlib.Data.List.TakeWhile
import Ninefold.Segments
import Ninefold.Proofs.Coordinate

/-!
# One scan over a text

A text can be cut without any nesting: its delimiters part it into segments,
and each delimiter is a step of the coordinate on its axis. The main statement
says that this one scan finds the segments that the cut on nine levels finds,
at the same coordinates, and that the cursor of the cut rests one step on the
library axis past the last of them.

The scan is defined for any reading of characters as steps, since the proof
goes through the readings that know the finer axes alone.
-/

namespace Ninefold

namespace Delimiters

/-- The axis, among some, on which a character parts siblings. -/
def axisAmong? (d : Delimiters) (axes : List Axis) (ch : Char) : Option Axis :=
  axes.find? fun a => d.char a = ch

/-- The axis on which a character parts siblings; none if it is text. -/
def axis? (d : Delimiters) (ch : Char) : Option Axis := d.axisAmong? Axis.all ch

@[simp] theorem axis?_char (d : Delimiters) (a : Axis) : d.axis? (d.char a) = some a := by
  rw [axis?, axisAmong?, List.find?_eq_some_iff_append]
  obtain ⟨coarse, fine, hall⟩ := List.append_of_mem (Axis.mem_all a)
  refine ⟨by simp, coarse, fine, hall, fun b hb => ?_⟩
  have hlt := (Axis.mem_before_iff hall.symm b).mp hb
  have hne : d.char b ≠ d.char a := fun h => by
    have := d.distinct h
    subst this
    omega
  simpa using hne

theorem axis?_eq_none_iff {d : Delimiters} {ch : Char} :
    d.axis? ch = none ↔ d.reserves ch = false := by
  rw [← Bool.not_eq_true, reserves_iff, axis?, axisAmong?, List.find?_eq_none]
  simp

theorem axis?_eq_some_iff {d : Delimiters} {ch : Char} {a : Axis} :
    d.axis? ch = some a ↔ d.char a = ch := by
  constructor
  · intro h
    simpa using List.find?_some h
  · rintro rfl
    exact d.axis?_char a

theorem isSome_axis? (d : Delimiters) (ch : Char) : (d.axis? ch).isSome = d.reserves ch := by
  cases h : d.axis? ch with
  | none => exact (axis?_eq_none_iff.mp h).symm
  | some a => exact (reserves_iff.mpr ⟨a, axis?_eq_some_iff.mp h⟩).symm

end Delimiters

namespace Scan

/-- The segments of a text in which `step?` tells what is a delimiter, and of
which axis, with the coordinate that the steps before each lead to from `c`. -/
def segments (step? : Char → Option Axis) (c : Coordinate) (t : Text) : List Scroll :=
  List.zipWith Scroll.mk ((t.filterMap step?).scanl Coordinate.advance c)
    (t.splitOnP fun ch => (step? ch).isSome)

/-- The coordinate that all steps of a text lead to. -/
def last (step? : Char → Option Axis) (c : Coordinate) (t : Text) : Coordinate :=
  (t.filterMap step?).foldl Coordinate.advance c

/-- A text is free of delimiters, or has a first one. -/
theorem cut_induction (p : Char → Bool) {motive : Text → Prop}
    (free : ∀ t : Text, (∀ ch ∈ t, p ch = false) → motive t)
    (cut : ∀ (s : Text) (ch : Char) (t : Text), (∀ ch ∈ s, p ch = false) → p ch = true →
      motive t → motive (s ++ ch :: t)) (t : Text) : motive t := by
  have hsplit : t.takeWhile (fun ch => !p ch) ++ t.dropWhile (fun ch => !p ch) = t :=
    List.takeWhile_append_dropWhile
  have hfree : ∀ ch ∈ t.takeWhile (fun ch => !p ch), p ch = false := by
    intro ch hch
    simpa using List.mem_takeWhile_imp hch
  cases hrest : t.dropWhile (fun ch => !p ch) with
  | nil =>
    rw [hrest, List.append_nil] at hsplit
    exact hsplit ▸ free _ hfree
  | cons ch rest =>
    have hch : p ch = true := by
      have := List.head?_dropWhile_not (fun ch => !p ch) t
      simpa [hrest] using this
    -- what is behind the first delimiter is shorter
    have hshort : rest.length < t.length := by
      rw [← hsplit, hrest]
      simp
      omega
    rw [hrest] at hsplit
    exact hsplit ▸ cut _ ch rest hfree hch (cut_induction p free cut rest)
termination_by t.length

variable {step? : Char → Option Axis}

/-! ## Scanning a text in parts -/

/-- A text has one segment more than it has delimiters. -/
theorem length_splitOnP (t : Text) :
    (t.splitOnP fun ch => (step? ch).isSome).length = (t.filterMap step?).length + 1 := by
  induction t with
  | nil => simp
  | cons ch t ih =>
    rw [List.splitOnP_cons_eq_if_modifyHead]
    cases h : step? ch <;> simp [h, ih]

/-- Where the segments of a text lie. -/
theorem map_place_segments (step? : Char → Option Axis) (c : Coordinate) (t : Text) :
    (segments step? c t).map Scroll.place =
      (t.filterMap step?).scanl Coordinate.advance c := by
  apply List.ext_getElem
  · simp [segments, length_splitOnP]
  · intro i _ _
    simp [segments]

theorem segments_of_free {t : Text} (h : ∀ ch ∈ t, step? ch = none) (c : Coordinate) :
    segments step? c t = [⟨c, t⟩] := by
  have hsteps : t.filterMap step? = [] := List.filterMap_eq_nil_iff.mpr h
  rw [segments, hsteps, List.splitOnP_eq_singleton fun ch hch => by rw [h ch hch]; rfl]
  simp

theorem last_of_free {t : Text} (h : ∀ ch ∈ t, step? ch = none) (c : Coordinate) :
    last step? c t = c := by
  rw [last, List.filterMap_eq_nil_iff.mpr h]
  rfl

/-- A scan goes on behind a delimiter one step further. -/
theorem segments_append_cons {ch : Char} {a : Axis} (h : step? ch = some a) (c : Coordinate)
    (t u : Text) :
    segments step? c (t ++ ch :: u) =
      segments step? c t ++ segments step? ((last step? c t).advance a) u := by
  have hch : (step? ch).isSome = true := by rw [h]; rfl
  have hsteps : (t ++ ch :: u).filterMap step? = t.filterMap step? ++ a :: u.filterMap step? := by
    rw [List.filterMap_append, List.filterMap_cons_some h]
  rw [segments, hsteps, List.splitOnP_append_cons t u hch, List.scanl_append, List.scanl_cons,
    List.tail_cons, List.zipWith_append]
  · rfl
  · rw [List.length_scanl, length_splitOnP]

theorem last_append_cons {ch : Char} {a : Axis} (h : step? ch = some a) (c : Coordinate)
    (t u : Text) :
    last step? c (t ++ ch :: u) = last step? ((last step? c t).advance a) u := by
  rw [last, List.filterMap_append, List.filterMap_cons_some h, List.foldl_append]
  rfl

theorem segments_cons {ch : Char} {a : Axis} (h : step? ch = some a) (c : Coordinate) (u : Text) :
    segments step? c (ch :: u) = ⟨c, []⟩ :: segments step? (c.advance a) u :=
  segments_append_cons h c [] u

/-- Only what a text holds is read. -/
theorem segments_congr {f g : Char → Option Axis} {t : Text} (h : ∀ ch ∈ t, f ch = g ch)
    (c : Coordinate) : segments f c t = segments g c t := by
  have hsteps : t.filterMap f = t.filterMap g := List.filterMap_congr h
  have hsplit : (t.splitOnP fun ch => (f ch).isSome) = t.splitOnP fun ch => (g ch).isSome := by
    clear hsteps
    induction t with
    | nil => rfl
    | cons ch t ih =>
      rw [List.splitOnP_cons_eq_if_modifyHead, List.splitOnP_cons_eq_if_modifyHead,
        h ch (by simp), ih fun ch hch => h ch (by simp [hch])]
  rw [segments, hsteps, hsplit]
  rfl

theorem last_congr {f g : Char → Option Axis} {t : Text} (h : ∀ ch ∈ t, f ch = g ch)
    (c : Coordinate) : last f c t = last g c t := by
  rw [last, List.filterMap_congr h]
  rfl

end Scan

namespace Segments

/-! ## The descent as a scan -/

/-- The walk after a scan over a text. -/
def Walk.scan (step? : Char → Option Axis) (t : Text) (w : Walk) : Walk :=
  ⟨(Scan.segments step? w.cursor t).reverse ++ w.met, Scan.last step? w.cursor t⟩

theorem Walk.scan_of_free {step? : Char → Option Axis} {t : Text}
    (h : ∀ ch ∈ t, step? ch = none) (w : Walk) : w.scan step? t = w.meet t := by
  rw [Walk.scan, Scan.segments_of_free h, Scan.last_of_free h]
  rfl

theorem Walk.scan_append_cons {step? : Char → Option Axis} {ch : Char} {a : Axis}
    (h : step? ch = some a) (t u : Text) (w : Walk) :
    w.scan step? (t ++ ch :: u) = ((w.scan step? t).leave a).scan step? u := by
  simp only [Walk.scan, Scan.segments_append_cons h, Scan.last_append_cons h, Walk.leave,
    List.reverse_append, List.append_assoc]

theorem Walk.scan_congr {f g : Char → Option Axis} {t : Text} (h : ∀ ch ∈ t, f ch = g ch)
    (w : Walk) : w.scan f t = w.scan g t := by
  rw [Walk.scan, Scan.segments_congr h, Scan.last_congr h]
  rfl

/-- The step behind the last piece of a finer axis is made good. -/
theorem Walk.leave_leave {a b : Axis} (h : a.index < b.index) (w : Walk) :
    (w.leave b).leave a = w.leave a := by
  rw [Walk.leave, Walk.leave, Walk.leave, Coordinate.advance_advance h]

/-- If the pieces of an axis are walked as scans for the finer axes, their
text is walked as one scan. -/
theorem foldl_scan (d : Delimiters) (a : Axis) (finer : List Axis) (t : Text) (w : Walk) :
    (t.splitOn (d.char a)).foldl
        (fun w piece => (w.scan (d.axisAmong? finer) piece).leave a) w =
      (w.scan (d.axisAmong? (a :: finer)) t).leave a := by
  have hsep : d.axisAmong? (a :: finer) (d.char a) = some a := by simp [Delimiters.axisAmong?]
  -- a piece holds no delimiter of `a`, so it reads alike with `a` and without
  have hpiece : ∀ (s : Text) (w : Walk), (∀ ch ∈ s, (ch == d.char a) = false) →
      w.scan (d.axisAmong? (a :: finer)) s = w.scan (d.axisAmong? finer) s := by
    intro s w hs
    refine w.scan_congr fun ch hch => ?_
    have hne : d.char a ≠ ch := by
      intro he
      have := hs ch hch
      simp [he] at this
    rw [Delimiters.axisAmong?, List.find?_cons_of_neg (by simpa using hne)]
    rfl
  induction t using Scan.cut_induction (· == d.char a) generalizing w with
  | free t hfree =>
    rw [List.splitOn_eq_singleton_of_beq_eq_false hfree, List.foldl_cons, List.foldl_nil,
      hpiece t w hfree]
  | cut s ch t hfree hsame ih =>
    have hch : ch = d.char a := by simpa using hsame
    rw [List.splitOn_append_cons_of_forall_mem_beq_eq_false hfree _ hsame, List.foldl_cons, ih,
      hch, Walk.scan_append_cons hsep, hpiece s w hfree]

/-- Below an axis the descent is a scan, but for where the cursor rests, and
leaving the axis makes that good. -/
theorem descend_leave (d : Delimiters) {a : Axis} {finer : List Axis}
    (h : (a :: finer).Pairwise (fun a b => a.index < b.index)) (t : Text) (w : Walk) :
    (descend d finer t w).leave a = (w.scan (d.axisAmong? finer) t).leave a := by
  induction finer generalizing a t w with
  | nil =>
    have hfree : ∀ ch ∈ t, d.axisAmong? [] ch = none := fun _ _ => rfl
    rw [descend, Walk.scan_of_free hfree]
  | cons b finest ih =>
    obtain ⟨hhead, htail⟩ := List.pairwise_cons.mp h
    have hab : a.index < b.index := hhead b (by simp)
    -- the walk below `b` ends one step on `b` too far, and `a` is coarser
    have hpieces : (fun (w : Walk) (piece : Text) => (descend d finest piece w).leave b) =
        fun w piece => (w.scan (d.axisAmong? finest) piece).leave b :=
      funext fun w => funext fun piece => ih htail piece w
    rw [descend, hpieces, foldl_scan, Walk.leave_leave hab]

/-- The descent from the coarsest axis is one scan and a last step on it. -/
theorem descend_all (d : Delimiters) (t : Text) (w : Walk) :
    descend d Axis.all t w = (w.scan d.axis? t).leave .library := by
  have hsorted := Axis.pairwise_all
  have hpieces : (fun (w : Walk) (piece : Text) =>
      (descend d Axis.all.tail piece w).leave .library) =
        fun w piece => (w.scan (d.axisAmong? Axis.all.tail) piece).leave .library :=
    funext fun w => funext fun piece => descend_leave d hsorted piece w
  exact (congrArg (fun f => List.foldl f w (t.splitOn (d.char .library))) hpieces).trans
    (foldl_scan d .library Axis.all.tail t w)

/-- All segments of a text are those of the scan, the empty text included. -/
theorem all_ofText (d : Delimiters) (t : Text) :
    (ofText d t).all = Scan.segments d.axis? .origin t := by
  cases t with
  | nil => rfl
  | cons ch t =>
    show (descend d Axis.all (ch :: t) .start).met.reverse = _
    rw [descend_all]
    simp [Walk.scan, Walk.leave, Walk.start]

theorem cursor_ofText (d : Delimiters) {t : Text} (h : t ≠ []) :
    (ofText d t).cursor = (Scan.last d.axis? .origin t).advance .library := by
  cases t with
  | nil => exact absurd rfl h
  | cons ch t =>
    show (descend d Axis.all (ch :: t) .start).cursor = _
    rw [descend_all]
    rfl

/-- **One scan finds what the nested cut finds.** The delimiters of a text, in
its order, step the coordinate from the origin; the runs of text between them
that hold anything are the scrolls, each where the steps before it lead. The
cursor rests one library step past the last run. The empty text has no scroll,
and the cursor stays at the origin. -/
theorem ofText_eq_scan (d : Delimiters) (t : Text) :
    (ofText d t).scrolls =
        (List.zipWith Scroll.mk ((t.filterMap d.axis?).scanl Coordinate.advance .origin)
          (t.splitOnP d.reserves)).filter Scroll.written ∧
      (ofText d t).cursor =
        (if t = [] then .origin
        else ((t.filterMap d.axis?).foldl Coordinate.advance .origin).advance .library) ∧
      (ofText d []).scrolls = [] := by
  refine ⟨?_, ?_, rfl⟩
  · rw [scrolls, all_ofText, Scan.segments]
    simp only [Delimiters.isSome_axis?]
  · by_cases h : t = []
    · subst h
      rfl
    · rw [if_neg h, cursor_ofText d h]
      rfl

end Segments

end Ninefold
