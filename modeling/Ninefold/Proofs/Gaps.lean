import Ninefold.Proofs.Stream

/-!
# Woven text, gap by gap

What a woven text has between two neighbouring cells is told by their
coordinates alone: on the coarsest axis on which the two differ as many
delimiters as there are steps from the one to the other, and on every finer
axis as many as lead up from the first position. The text is the texts of the
cells in their order, each behind its gap.
-/

namespace Ninefold

namespace Axis

/-- The axes finer than one, coarsest first. -/
def below (a : Axis) : List Axis := all.filter fun b => a.index < b.index

theorem below_eq {coarse fine : List Axis} {a : Axis} (h : coarse ++ a :: fine = all) :
    a.below = fine := by
  have hcoarse : coarse.filter (fun b => a.index < b.index) = [] := by
    refine List.filter_eq_nil_iff.mpr fun b hb => ?_
    have := (mem_before_iff h b).mp hb
    simp only [decide_eq_true_eq]
    omega
  have hfine : fine.filter (fun b => a.index < b.index) = fine := by
    refine List.filter_eq_self.mpr fun b hb => ?_
    simpa using (mem_after_iff h b).mp hb
  rw [below, ← h, List.filter_append, hcoarse, List.nil_append,
    List.filter_cons_of_neg (by simp), hfine]

end Axis

namespace Coordinate

/-- The coarsest axis on which two coordinates differ. -/
def parting? (p c : Coordinate) : Option Axis := Axis.all.find? fun a => p.get a ≠ c.get a

theorem parting?_eq_none_iff {p c : Coordinate} : p.parting? c = none ↔ p = c := by
  rw [parting?, List.find?_eq_none]
  constructor
  · intro h
    exact ext_get fun a => by simpa using h a (Axis.mem_all a)
  · rintro rfl
    simp

/-- In front of the axis on which two coordinates part they agree. -/
theorem parting?_eq_some_iff {p c : Coordinate} {k : Axis} :
    p.parting? c = some k ↔
      p.get k ≠ c.get k ∧ ∀ b : Axis, b.index < k.index → p.get b = c.get b := by
  rw [parting?, List.find?_eq_some_iff_append]
  constructor
  · rintro ⟨hk, coarse, fine, hall, hbefore⟩
    refine ⟨by simpa using hk, fun b hb => ?_⟩
    simpa using hbefore b ((Axis.mem_before_iff hall.symm b).mpr hb)
  · rintro ⟨hk, hbefore⟩
    obtain ⟨coarse, fine, hall⟩ := List.append_of_mem (Axis.mem_all k)
    refine ⟨by simpa using hk, coarse, fine, hall, fun b hb => ?_⟩
    simpa using hbefore b ((Axis.mem_before_iff hall.symm b).mp hb)

/-- Where two coordinates part, the earlier has the smaller number. -/
theorem get_lt_of_parting? {p c : Coordinate} {k : Axis} (h : p < c)
    (hk : p.parting? c = some k) : p.get k < c.get k := by
  obtain ⟨hne, hbefore⟩ := parting?_eq_some_iff.mp hk
  obtain ⟨a, hsame, hlt⟩ := lt_iff_exists.mp h
  -- the axis that decides the order is the one on which they part
  rcases Nat.lt_trichotomy a.index k.index with hak | hak | hak
  · have := hbefore a hak
    omega
  · exact Axis.index_injective hak ▸ hlt
  · exact absurd (hsame k hak) hne

end Coordinate

namespace Weave

/-- The delimiters between a cell at `p` and the next one, at `c`. -/
def gap (d : Delimiters) (p c : Coordinate) : Text :=
  match p.parting? c with
  | none => []
  | some k =>
    List.replicate (c.get k - p.get k) (d.char k) ++
      k.below.flatMap fun j => List.replicate (c.get j - 1) (d.char j)

theorem gap_self (d : Delimiters) (p : Coordinate) : gap d p p = [] := by
  rw [gap, Coordinate.parting?_eq_none_iff.mpr rfl]

theorem gap_of_parting {p c : Coordinate} {k : Axis} (h : p.parting? c = some k)
    (d : Delimiters) :
    gap d p c = List.replicate (c.get k - p.get k) (d.char k) ++
      k.below.flatMap fun j => List.replicate (c.get j - 1) (d.char j) := by
  rw [gap, h]

/-- The steps from one coordinate to another begin where the two part. -/
theorem steps_of_parting {coarse fine : List Axis} {k : Axis} {p c : Coordinate}
    (hsame : ∀ b ∈ coarse, p.get b = c.get b) (hk : p.get k ≠ c.get k) :
    steps (coarse ++ k :: fine) p c =
      List.replicate (c.get k - p.get k) k ++ climb fine c := by
  induction coarse with
  | nil => rw [List.nil_append, steps, if_neg hk]
  | cons b coarse ih =>
    rw [List.cons_append, steps, if_pos (hsame b (by simp)), ih fun b hb => hsame b (by simp [hb])]

theorem map_climb (d : Delimiters) (axes : List Axis) (c : Coordinate) :
    (climb axes c).map d.char = axes.flatMap fun j => List.replicate (c.get j - 1) (d.char j) := by
  simp [climb, List.map_flatMap]

/-- The gap between two cells is made of the steps from the one to the other. -/
theorem gap_eq_steps (d : Delimiters) (p c : Coordinate) :
    gap d p c = (steps Axis.all p c).map d.char := by
  cases hpart : p.parting? c with
  | none =>
    have hsame : p = c := Coordinate.parting?_eq_none_iff.mp hpart
    rw [hsame, gap_self, steps_self]
    rfl
  | some k =>
    obtain ⟨hne, hbefore⟩ := Coordinate.parting?_eq_some_iff.mp hpart
    obtain ⟨coarse, fine, hall⟩ := List.append_of_mem (Axis.mem_all k)
    have hsame : ∀ b ∈ coarse, p.get b = c.get b := fun b hb =>
      hbefore b ((Axis.mem_before_iff hall.symm b).mp hb)
    rw [gap_of_parting hpart, Axis.below_eq hall.symm, hall, steps_of_parting hsame hne,
      List.map_append, List.map_replicate, map_climb]

/-- Cells one after another, each behind the gap from the one before it. -/
theorem stream_eq_gaps (d : Delimiters) (p : Coordinate) (layer : Layer) :
    stream d Axis.all p layer =
      ((p :: layer.map (·.1)).zip layer).flatMap fun (before, c, t) => gap d before c ++ t := by
  induction layer generalizing p with
  | nil => rfl
  | cons cell rest ih =>
    obtain ⟨c, t⟩ := cell
    rw [stream, ih c, ← gap_eq_steps]
    rfl

end Weave

open Weave in
/-- **A woven text is its cells, each behind a gap.** Going through the cells in
order, each is written behind the gap from the one before it, the first from
the origin. The numbers that a gap is made of are differences indeed: where two
coordinates part, the later one has the greater number. -/
theorem weave_eq_gaps (d : Delimiters) (cells : Cells) :
    weave d cells =
        ((Coordinate.origin :: cells.keys).zip cells.entries).flatMap
          (fun (before, c, t) => gap d before c ++ t) ∧
      ∀ {p c : Coordinate} {k : Axis}, p < c → p.parting? c = some k → p.get k < c.get k := by
  refine ⟨?_, Coordinate.get_lt_of_parting?⟩
  rw [weave_eq_stream, stream_eq_gaps]
  rfl

/-- The second scroll of a second section, in the second library. -/
def Coordinate.deep : Coordinate :=
  ((origin.advance .library).advance .sect).advance .scroll

theorem weave_eq_gaps_deep :
    weave .standard (.ofScrolls [⟨.deep, ['x']⟩, ⟨.origin, ['a']⟩]) =
        ['a', '\x01', '\x18', '\x17', 'x'] ∧
      Coordinate.origin < .deep ∧ Coordinate.origin.parting? .deep = some .library ∧
      Coordinate.origin.get .library < Coordinate.deep.get .library := by
  have hgaps := weave_eq_gaps .standard (.ofScrolls [⟨.deep, ['x']⟩, ⟨.origin, ['a']⟩])
  have hlt : Coordinate.origin < .deep := by decide
  have hpart : Coordinate.origin.parting? .deep = some .library := by decide
  exact ⟨hgaps.1.trans (by decide), hlt, hpart, hgaps.2 hlt hpart⟩

end Ninefold
