import Mathlib
import Ninefold.Proofs.Route
import Ninefold.Proofs.Tidiness

/-!
# Normal texts are the shortest

Normalizing only takes characters out: what is left of the delimiters between
two scrolls is the shortest route from the one to the other. So among all texts
with the same scrolls the normal one is the shortest, whatever is counted. And a
text is normal exactly if there is nothing to take out: no delimiter stands right
before one of a coarser axis, and none at the end.
-/

namespace Ninefold

/-! ## A text, scroll by scroll -/

namespace Scan

/-- A text is nothing but delimiters, or it has a first scroll, with delimiters
in front of it and a rest behind it in which the scroll does not go on. -/
theorem scroll_induction (d : Delimiters) {motive : Text → Prop}
    (loose : ∀ as : List Axis, motive (as.map d.char))
    (scroll : ∀ (as : List Axis) (s rest : Text), s ≠ [] → (∀ ch ∈ s, d.axis? ch = none) →
      (∀ ch ∈ rest.head?, d.axis? ch ≠ none) → motive rest →
      motive (as.map d.char ++ (s ++ rest))) (t : Text) : motive t := by
  -- the delimiters met since the last scroll stand in front of what is left
  suffices h : ∀ as : List Axis, motive (as.map d.char ++ t) from h []
  induction t using cut_induction (fun ch => (d.axis? ch).isSome) with
  | free s hfree =>
    have hnone : ∀ ch ∈ s, d.axis? ch = none := fun ch hch => by simpa using hfree ch hch
    intro as
    by_cases hs : s = []
    · rw [hs, List.append_nil]
      exact loose as
    · have hlast := scroll as s [] hs hnone (by simp) (loose [])
      rwa [List.append_nil] at hlast
  | cut s ch t hfree hstep ih =>
    have hnone : ∀ ch ∈ s, d.axis? ch = none := fun ch hch => by simpa using hfree ch hch
    obtain ⟨a, ha⟩ := Option.isSome_iff_exists.mp hstep
    obtain rfl : d.char a = ch := Delimiters.axis?_eq_some_iff.mp ha
    intro as
    by_cases hs : s = []
    · have hmore := ih (as ++ [a])
      rw [List.map_append, List.append_assoc] at hmore
      rwa [hs]
    · exact scroll as s (d.char a :: t) hs hnone (by simp) (ih [a])

variable {d : Delimiters} {s rest : Text}

/-- The scrolls of delimiters alone. -/
theorem written_loose (d : Delimiters) (as : List Axis) (c : Coordinate) :
    (segments d.axis? c (as.map d.char)).filter Scroll.written = [] := by
  have h := written_steps_append d as c []
  rw [List.append_nil] at h
  rw [h]
  simp [segments, Scroll.written]

/-- The scrolls of a text with a first scroll. -/
theorem written_scroll (hs : s ≠ []) (hfree : ∀ ch ∈ s, d.axis? ch = none)
    (hrest : ∀ ch ∈ rest.head?, d.axis? ch ≠ none) (as : List Axis) (c : Coordinate) :
    (segments d.axis? c (as.map d.char ++ (s ++ rest))).filter Scroll.written =
      ⟨as.foldl Coordinate.advance c, s⟩ ::
        (segments d.axis? (as.foldl Coordinate.advance c) rest).filter Scroll.written := by
  rw [written_steps_append, written_free_append hfree hrest,
    List.filter_cons_of_pos (by simp [Scroll.written, hs])]
  rfl

/-- The steps of a text with a first scroll. -/
theorem filterMap_scroll (hfree : ∀ ch ∈ s, d.axis? ch = none) (as : List Axis) (rest : Text) :
    (as.map d.char ++ (s ++ rest)).filterMap d.axis? = as ++ rest.filterMap d.axis? := by
  rw [List.filterMap_append, List.filterMap_append, List.filterMap_eq_nil_iff.mpr hfree,
    List.filterMap_map]
  simp

end Scan

/-! ## Woven again -/

/-- The text of the scrolls of a text, from a coordinate on. -/
def Scan.rewoven (d : Delimiters) (p : Coordinate) (t : Text) : Text :=
  Weave.stream d Axis.all p
    (((segments d.axis? p t).filter Scroll.written).map Scroll.entry)

namespace Scan

open Coordinate Weave

variable {d : Delimiters} {p : Coordinate} {s rest : Text}

theorem rewoven_loose (d : Delimiters) (as : List Axis) (p : Coordinate) :
    rewoven d p (as.map d.char) = [] := by
  rw [rewoven, written_loose]
  rfl

theorem rewoven_scroll (hs : s ≠ []) (hfree : ∀ ch ∈ s, d.axis? ch = none)
    (hrest : ∀ ch ∈ rest.head?, d.axis? ch ≠ none) (as : List Axis) (p : Coordinate) :
    rewoven d p (as.map d.char ++ (s ++ rest)) =
      (steps Axis.all p (as.foldl advance p)).map d.char ++
        (s ++ rewoven d (as.foldl advance p) rest) := by
  rw [rewoven, written_scroll hs hfree hrest, List.map_cons, Scroll.entry, stream,
    List.append_assoc]
  rfl

/-- What is woven again has nothing new, and all in its old order. -/
theorem rewoven_sublist {t : Text} (h : Rising p (t.filterMap d.axis?)) :
    (rewoven d p t).Sublist t := by
  induction t using scroll_induction d generalizing p with
  | loose as =>
    rw [rewoven_loose]
    exact List.nil_sublist _
  | scroll as s rest hs hfree hrest ih =>
    rw [filterMap_scroll hfree] at h
    obtain ⟨has, hon⟩ := rising_append.mp h
    rw [rewoven_scroll hs hfree hrest]
    have hroute := (steps_sublist_of_leads ⟨has, rfl⟩).map d.char
    exact hroute.append ((List.Sublist.refl s).append (ih hon))

end Scan

/-- The cells of a text whose segments ascend, woven, are the text woven
again. -/
theorem weave_cells_ofText {d : Delimiters} {t : Text} (h : (Segments.ofText d t).Ascending) :
    weave d (Segments.ofText d t).cells = Scan.rewoven d .origin t := by
  have hentries : (Segments.ofText d t).cells.entries =
      (Segments.ofText d t).scrolls.map Scroll.entry := by
    rw [← h.scrolls_cells, Cells.scrolls, List.map_map]
    exact (List.map_id _).symm
  rw [weave_eq_stream, hentries, Segments.scrolls, Segments.all_ofText, Scan.rewoven]

theorem Text.byteCount_le_of_sublist {t u : Text} (h : t.Sublist u) :
    t.byteCount ≤ u.byteCount := by
  unfold byteCount asString
  rw [String.utf8ByteSize_ofList, String.utf8ByteSize_ofList]
  exact String.utf8Len_le_of_sublist h

namespace Document

variable {a b doc : Document}

theorem rising_of_length (h : doc.raw.length < Position.limit) :
    Coordinate.Rising .origin (doc.raw.filterMap doc.delimiters.axis?) := by
  refine Coordinate.rising_of_length fun b => ?_
  have := List.length_filterMap_le doc.delimiters.axis? doc.raw
  rw [Coordinate.get_origin]
  omega

theorem raw_normalize (h : doc.raw.length < Position.limit) :
    doc.normalize.raw = Scan.rewoven doc.delimiters .origin doc.raw := by
  rw [normalize, raw_ofCells]
  exact weave_cells_ofText (Segments.ascending_of_length h)

/-- Normalizing takes characters out and does nothing else. -/
theorem normalize_sublist (h : doc.raw.length < Position.limit) :
    doc.normalize.raw.Sublist doc.raw := by
  rw [raw_normalize h]
  exact Scan.rewoven_sublist (rising_of_length h)

/-- **The normal text is the shortest with its scrolls.** It can be had from any
text with the same scrolls by taking characters out, so it is no longer than that
text, in characters and in bytes. In particular no document becomes longer when
it is normalized. -/
theorem normalize_shortest (hd : a.delimiters = b.delimiters)
    (ha : a.raw.length < Position.limit) (hb : b.raw.length < Position.limit)
    (h : a.scrolls = b.scrolls) :
    a.normalize.raw.Sublist b.raw ∧
      a.normalize.raw.length ≤ b.raw.length ∧ a.normalize.raw.byteCount ≤ b.raw.byteCount ∧
      a.normalize.raw.length ≤ a.raw.length ∧ a.normalize.raw.byteCount ≤ a.raw.byteCount := by
  have hsame : a.normalize.raw = b.normalize.raw :=
    (raw_normalize_eq_iff hd (Segments.ascending_of_length ha)
      (Segments.ascending_of_length hb)).mpr h
  have hown := normalize_sublist ha
  have hother : a.normalize.raw.Sublist b.raw := by
    rw [hsame]
    exact normalize_sublist hb
  exact ⟨hother, hother.length_le, Text.byteCount_le_of_sublist hother, hown.length_le,
    Text.byteCount_le_of_sublist hown⟩

/-- The scroll break in front of a section break is hidden by it, and the one
behind the letter leads nowhere: two texts for one scroll, and a third that is
shorter than either. -/
theorem normalize_shortest_hidden_break :
    (ofText ['\x17', '\x18', 'a']).scrolls = (ofText ['\x18', 'a', '\x17']).scrolls ∧
      (ofText ['\x17', '\x18', 'a']).normalize.raw = ['\x18', 'a'] ∧
      (ofText ['\x17', '\x18', 'a']).normalize.raw.Sublist (ofText ['\x18', 'a', '\x17']).raw ∧
      (ofText ['\x17', '\x18', 'a']).normalize.raw.length ≤
        (ofText ['\x18', 'a', '\x17']).raw.length ∧
      (ofText ['\x17', '\x18', 'a']).normalize.raw.byteCount ≤
        (ofText ['\x18', 'a', '\x17']).raw.byteCount := by
  have hscrolls : (ofText ['\x17', '\x18', 'a']).scrolls =
      (ofText ['\x18', 'a', '\x17']).scrolls := by decide +kernel
  have hnormal : (ofText ['\x17', '\x18', 'a']).normalize.raw = ['\x18', 'a'] := by
    decide +kernel
  obtain ⟨hsublist, hlength, hbytes, -, -⟩ :=
    normalize_shortest (a := ofText ['\x17', '\x18', 'a']) (b := ofText ['\x18', 'a', '\x17'])
      rfl (by decide) (by decide) hscrolls
  exact ⟨hscrolls, hnormal, hsublist, hlength, hbytes⟩

end Document

/-! ## Texts that are normal -/

/-- A delimiter and, behind it, one of a coarser axis. -/
def Delimiters.Rises (d : Delimiters) (x y : Char) : Prop :=
  ∃ a b : Axis, d.char a = x ∧ d.char b = y ∧ b.index < a.index

/-- A text that has nothing to take out: its last character is no delimiter, and
no delimiter stands right before one of a coarser axis. The empty text, which
has no last character, is of this kind. -/
structure Text.Orderly (d : Delimiters) (t : Text) : Prop where
  last : ∀ ch ∈ t.getLast?, d.reserves ch = false
  neighbours : t.IsChain fun x y => ¬ d.Rises x y

namespace Text

variable {d : Delimiters} {s rest : Text} {as : List Axis}

theorem rises_char {a b : Axis} : d.Rises (d.char a) (d.char b) ↔ b.index < a.index := by
  constructor
  · rintro ⟨a', b', ha, hb, hlt⟩
    rwa [d.distinct ha, d.distinct hb] at hlt
  · exact fun hlt => ⟨a, b, rfl, rfl, hlt⟩

/-- Whether one character rises to another shows in the axes they belong to. -/
theorem rises_iff {x y : Char} :
    d.Rises x y ↔ ∃ a ∈ d.axis? x, ∃ b ∈ d.axis? y, b.index < a.index := by
  constructor
  · rintro ⟨a, b, rfl, rfl, hlt⟩
    exact ⟨a, d.axis?_char a, b, d.axis?_char b, hlt⟩
  · rintro ⟨a, ha, b, hb, hlt⟩
    exact ⟨a, b, Delimiters.axis?_eq_some_iff.mp ha, Delimiters.axis?_eq_some_iff.mp hb, hlt⟩

instance (d : Delimiters) (x y : Char) : Decidable (d.Rises x y) := decidable_of_iff' _ rises_iff

/-- Whether a text is in order shows in its last character and its neighbours. -/
theorem orderly_iff {t : Text} :
    Orderly d t ↔ t.getLast?.all (fun ch => !d.reserves ch) = true ∧
      t.IsChain fun x y => ¬ d.Rises x y := by
  have hlast : t.getLast?.all (fun ch => !d.reserves ch) = true ↔
      ∀ ch ∈ t.getLast?, d.reserves ch = false := by simp [Option.all_eq_true]
  rw [hlast]
  exact ⟨fun h => ⟨h.last, h.neighbours⟩, fun h => ⟨h.1, h.2⟩⟩

instance (d : Delimiters) (t : Text) : Decidable (Orderly d t) := decidable_of_iff' _ orderly_iff

theorem not_rises_left {x y : Char} (h : d.axis? x = none) : ¬ d.Rises x y := by
  rintro ⟨a, b, rfl, -, -⟩
  simp at h

theorem not_rises_right {x y : Char} (h : d.axis? y = none) : ¬ d.Rises x y := by
  rintro ⟨a, b, -, rfl, -⟩
  simp at h

/-- Delimiters alone are in order where the axes only become finer. -/
theorem isChain_loose :
    (as.map d.char).IsChain (fun x y => ¬ d.Rises x y) ↔
      as.Pairwise (fun a b => a.index ≤ b.index) := by
  have : IsTrans Axis (fun a b => a.index ≤ b.index) := ⟨fun _ _ _ => Nat.le_trans⟩
  rw [List.isChain_map, ← List.isChain_iff_pairwise]
  simp only [rises_char, Nat.not_lt]

theorem orderly_loose : Orderly d (as.map d.char) ↔ as = [] := by
  constructor
  · intro h
    cases hlast : as.getLast? with
    | none => exact List.getLast?_eq_none_iff.mp hlast
    | some a =>
      have hfree := h.last (d.char a) (by rw [List.getLast?_map, hlast]; rfl)
      rw [← Delimiters.axis?_eq_none_iff, d.axis?_char] at hfree
      cases hfree
  · rintro rfl
    exact ⟨by simp, .nil⟩

/-- A text with a first scroll is in order if what is before it and what is
behind it are. -/
theorem orderly_scroll (hs : s ≠ []) (hfree : ∀ ch ∈ s, d.axis? ch = none) :
    Orderly d (as.map d.char ++ (s ++ rest)) ↔
      as.Pairwise (fun a b => a.index ≤ b.index) ∧ Orderly d rest := by
  have hchain : s.IsChain (fun x y => ¬ d.Rises x y) :=
    (List.pairwise_of_forall_mem_list fun x hx y _ => not_rises_left (hfree x hx)).isChain
  have hbefore : ∀ x ∈ (as.map d.char).getLast?, ∀ y ∈ (s ++ rest).head?, ¬ d.Rises x y := by
    intro x _ y hy
    rw [List.head?_append_of_ne_nil s hs] at hy
    exact not_rises_right (hfree y (List.mem_of_mem_head? hy))
  have hbehind : ∀ x ∈ s.getLast?, ∀ y ∈ rest.head?, ¬ d.Rises x y := fun x hx y _ =>
    not_rises_left (hfree x (List.mem_of_mem_getLast? hx))
  have hlast : (∀ ch ∈ (as.map d.char ++ (s ++ rest)).getLast?, d.reserves ch = false) ↔
      ∀ ch ∈ rest.getLast?, d.reserves ch = false := by
    rw [List.getLast?_append, List.getLast?_append]
    cases hend : rest.getLast? with
    | some ch => rfl
    | none =>
      -- nothing is behind the scroll, which ends in a letter
      rw [Option.none_or, List.getLast?_eq_some_getLast hs, Option.some_or]
      simpa using Delimiters.axis?_eq_none_iff.mp (hfree _ (List.getLast_mem hs))
  constructor
  · rintro ⟨hend, hall⟩
    obtain ⟨hfirst, hthen, -⟩ := List.isChain_append.mp hall
    exact ⟨isChain_loose.mp hfirst, hlast.mp hend, (List.isChain_append.mp hthen).2.1⟩
  · rintro ⟨has, hend, hrest⟩
    exact ⟨hlast.mpr hend, List.isChain_append.mpr ⟨isChain_loose.mpr has,
      List.isChain_append.mpr ⟨hchain, hrest, hbehind⟩, hbefore⟩⟩

end Text

namespace Scan

open Coordinate Weave

variable {d : Delimiters} {p : Coordinate} {s rest : Text}

/-- Only what is as long as before is as before. -/
theorem rewoven_scroll_eq_iff (hs : s ≠ []) (hfree : ∀ ch ∈ s, d.axis? ch = none)
    (hhead : ∀ ch ∈ rest.head?, d.axis? ch ≠ none) {as : List Axis} (has : Rising p as)
    (hrest : Rising (as.foldl advance p) (rest.filterMap d.axis?)) :
    rewoven d p (as.map d.char ++ (s ++ rest)) = as.map d.char ++ (s ++ rest) ↔
      steps Axis.all p (as.foldl advance p) = as ∧
        rewoven d (as.foldl advance p) rest = rest := by
  have hroute : (steps Axis.all p (as.foldl advance p)).Sublist as :=
    steps_sublist_of_leads ⟨has, rfl⟩
  have hbehind := rewoven_sublist hrest
  rw [rewoven_scroll hs hfree hhead]
  constructor
  · intro h
    have hlength := congrArg List.length h
    have hroutes := hroute.length_le
    have hbehinds := hbehind.length_le
    simp only [List.length_append, List.length_map] at hlength
    exact ⟨hroute.eq_of_length (by omega), hbehind.eq_of_length (by omega)⟩
  · rintro ⟨hsteps, hsame⟩
    rw [hsteps, hsame]

/-- A text woven again is as before exactly if it is in order. -/
theorem rewoven_eq_iff {t : Text} (h : Rising p (t.filterMap d.axis?)) :
    rewoven d p t = t ↔ t.Orderly d := by
  induction t using scroll_induction d generalizing p with
  | loose as =>
    rw [rewoven_loose, Text.orderly_loose, eq_comm, List.map_eq_nil_iff]
  | scroll as s rest hs hfree hrest ih =>
    rw [filterMap_scroll hfree] at h
    obtain ⟨has, hon⟩ := rising_append.mp h
    have hroute : steps Axis.all p (as.foldl advance p) = as ↔
        as.Pairwise (fun a b => a.index ≤ b.index) :=
      ⟨fun he => he ▸ pairwise_steps Axis.pairwise_all p _, steps_eq_of_leads ⟨has, rfl⟩⟩
    rw [rewoven_scroll_eq_iff hs hfree hrest has hon, ih hon, hroute,
      Text.orderly_scroll hs hfree]

end Scan

namespace Session

variable {s : Session} {label : Option String} {w : World}

/-- There is nothing to normalize, it is said, exactly where the text is as it
would be. -/
theorem perform_normalize_same_iff {stored : Stored}
    (h : ((s.fetch label).perform w).1 = .ok stored) :
    ((s.normalize label).perform w).1 = .ok (s, .info
        (labelInQuotes (s.settings.resolveLabel label) ++ " is already normalized")) ↔
      stored.document.normalize.raw = stored.raw := by
  obtain ⟨w₁, hfetch⟩ := Act.exists_perform_eq h
  rw [normalize, Act.perform_bind_ok hfetch, Act.perform_bind_ok (perform_noteReading ..)]
  split
  next hsame => exact ⟨fun _ => hsame, fun _ => rfl⟩
  next hother =>
    refine ⟨fun hsaid => ?_, fun hsame => absurd hsame hother⟩
    -- the text is changed, and what is said then is not said in passing
    exfalso
    rw [Act.perform_bind_ok (Act.perform_send .now _), Act.perform_bind] at hsaid
    split at hsaid
    · cases hsaid
    · cases hsaid

end Session

namespace Document

open Session

variable {doc : Document}

/-- **A text is normal exactly if it is in order**: it is empty or ends in a
character that is no delimiter, and no delimiter stands right before one of a
coarser axis. These are the texts that normalizing leaves as they are, and for
a document with such a text the session says that there is nothing to do. -/
theorem normalize_eq_iff_orderly (h : doc.raw.length < Position.limit) :
    (doc.normalize.raw = doc.raw ↔ doc.raw.Orderly doc.delimiters) ∧
      ∀ (s : Session) (w : World) (label : Option String) (stored : Stored),
        ((s.fetch label).perform w).1 = .ok stored → stored.document = doc →
        (((s.normalize label).perform w).1 = .ok (s, .info
            (labelInQuotes (s.settings.resolveLabel label) ++ " is already normalized")) ↔
          doc.raw.Orderly doc.delimiters) := by
  have hnormal : doc.normalize.raw = doc.raw ↔ doc.raw.Orderly doc.delimiters := by
    rw [raw_normalize h]
    exact Scan.rewoven_eq_iff (rising_of_length h)
  refine ⟨hnormal, fun s w label stored hfetch hdoc => ?_⟩
  rw [← hnormal, ← hdoc]
  exact s.perform_normalize_same_iff hfetch

/-- Two letters with a break between them are in order, and with a break that
hides another one they are not. -/
theorem normalize_eq_iff_orderly_two_letters :
    (importedDoc ['a', '\x17', 'b']).document.normalize.raw = ['a', '\x17', 'b'] ∧
      (((book ['a', '\x17', 'b']).normalize none).perform .bare).1 = .ok
        (book ['a', '\x17', 'b'], .info ("'holiday' is already normalized")) ∧
      (importedDoc ['a', '\x17', '\x18', 'b']).document.normalize.raw ≠
        ['a', '\x17', '\x18', 'b'] ∧
      (((book ['a', '\x17', '\x18', 'b']).normalize none).perform .bare).1 ≠ .ok
        (book ['a', '\x17', '\x18', 'b'], .info ("'holiday' is already normalized")) := by
  have horder : Text.Orderly .standard ['a', '\x17', 'b'] := by decide +kernel
  have hdisorder : ¬ Text.Orderly .standard ['a', '\x17', '\x18', 'b'] := by decide +kernel
  have hshort : (importedDoc ['a', '\x17', 'b']).document.raw.length < Position.limit := by decide
  have hshort' : (importedDoc ['a', '\x17', '\x18', 'b']).document.raw.length <
    Position.limit := by decide
  obtain ⟨hsame, hanswer⟩ := normalize_eq_iff_orderly hshort
  obtain ⟨hsame', hanswer'⟩ := normalize_eq_iff_orderly hshort'
  exact ⟨hsame.mpr horder, (hanswer _ _ none _ (fetch_book _ _) rfl).mpr horder,
    fun h => hdisorder (hsame'.mp h),
    fun h => hdisorder ((hanswer' _ _ none _ (fetch_book _ _) rfl).mp h)⟩

end Document

end Ninefold
