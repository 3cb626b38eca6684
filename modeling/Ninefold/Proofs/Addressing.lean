import Mathlib
import Ninefold.Proofs.Address
import Ninefold.Proofs.Canonical
import Ninefold.Proofs.Simulation
import Ninefold.Proofs.Unchanged

/-!
# Listed scrolls at their addresses

A cut counts siblings without end, while an address names no position beyond the
999th. An addressable coordinate is met at most once along a text, however long
that is, so what is listed there is what is selected there. A scroll listed
beyond it is printed with an address that leads elsewhere.
-/

namespace Ninefold

/-! ## Addressable coordinates along a text -/

namespace Coordinate

/-- Steps on an axis and on finer ones add up on that axis until it is full. -/
theorem get_foldl_advance {a : Axis} {steps : List Axis} (h : ∀ b ∈ steps, a.index ≤ b.index)
    (c : Coordinate) :
    (steps.foldl advance c).get a = min (c.get a + steps.count a) Position.limit := by
  induction steps generalizing c with
  | nil =>
    have := c.get_le_limit a
    simp only [List.foldl_nil, List.count_nil]
    omega
  | cons b rest ih =>
    have hstep : (c.advance b).get a =
        if b = a then min (c.get a + 1) Position.limit else c.get a := by
      have hb := h b (by simp)
      rw [get_advance]
      by_cases hab : b = a
      · subst hab
        rw [if_neg (by omega), if_pos rfl, if_pos rfl]
      · have hne : a.index ≠ b.index := fun hidx => hab (Axis.index_injective hidx).symm
        rw [if_pos (by omega), if_neg hab]
    rw [List.foldl_cons, ih (fun b hb => h b (by simp [hb])), hstep, List.count_cons]
    by_cases hab : b = a
    · simp only [hab, if_true, beq_self_eq_true]
      omega
    · simp only [hab, if_false, beq_iff_eq]
      omega

/-- Steps from an addressable coordinate never lead back to it: the coarsest
axis among them is not full, so it ends further on. -/
theorem foldl_advance_ne {c : Coordinate} (h : c.Addressable) {steps : List Axis}
    (hsteps : steps ≠ []) : steps.foldl advance c ≠ c := by
  obtain ⟨a, ha, hcoarsest⟩ :=
    Finset.exists_min_image steps.toFinset Axis.index (by simpa using hsteps)
  rw [List.mem_toFinset] at ha
  have hget := get_foldl_advance (fun b hb => hcoarsest b (List.mem_toFinset.mpr hb)) c
  have hcount : 0 < steps.count a := List.count_pos_iff.mpr ha
  have hroom := h a
  intro heq
  rw [heq] at hget
  simp only [Position.lastNamed, Position.limit] at hroom hget
  omega

/-- Where steps lead, one after another. -/
theorem mem_scanl_advance {c e : Coordinate} {steps : List Axis}
    (h : e ∈ steps.scanl advance c) : ∃ taken, e = List.foldl advance c taken := by
  induction steps generalizing c with
  | nil => exact ⟨[], by simpa using h⟩
  | cons a rest ih =>
    rw [List.scanl_cons, List.mem_cons] at h
    rcases h with rfl | h
    · exact ⟨[], rfl⟩
    · obtain ⟨taken, htaken⟩ := ih h
      exact ⟨a :: taken, htaken⟩

/-- Along any steps an addressable coordinate is met at most once. -/
theorem pairwise_scanl_advance {e : Coordinate} (h : e.Addressable) (c : Coordinate)
    (steps : List Axis) : (steps.scanl advance c).Pairwise fun x y => ¬ (x = e ∧ y = e) := by
  induction steps generalizing c with
  | nil => simp
  | cons a rest ih =>
    rw [List.scanl_cons, List.pairwise_cons]
    refine ⟨fun y hy => ?_, ih (c.advance a)⟩
    obtain ⟨taken, htaken⟩ := mem_scanl_advance hy
    rintro ⟨rfl, rfl⟩
    exact foldl_advance_ne h (List.cons_ne_nil a taken) htaken.symm

theorem addressable_origin : origin.Addressable := fun a => by
  rw [get_origin]
  decide

end Coordinate

namespace Segments

/-- The segment of a text at an addressable coordinate is the one found
there. -/
theorem text?_of_addressable {d : Delimiters} {t : Text} {s : Scroll}
    (hs : s ∈ (ofText d t).all) (h : s.place.Addressable) :
    (ofText d t).text? s.place = some s.text := by
  have honce : (ofText d t).all.Pairwise fun x y => ¬ (x.place = s.place ∧ y.place = s.place) := by
    rw [all_ofText]
    have hplaces := Coordinate.pairwise_scanl_advance h .origin (t.filterMap d.axis?)
    rw [← Scan.map_place_segments, List.pairwise_map] at hplaces
    exact hplaces
  have hsymm : Std.Symm fun x y : Scroll => ¬ (x.place = s.place ∧ y.place = s.place) :=
    ⟨fun x y hxy hyx => hxy hyx.symm⟩
  cases hfind : (ofText d t).all.reverse.find? (·.place = s.place) with
  | none =>
    have hmissed := List.find?_eq_none.mp hfind s (List.mem_reverse.mpr hs)
    simp at hmissed
  | some found =>
    have hplace : found.place = s.place := by simpa using List.find?_some hfind
    have hmem := List.mem_reverse.mp (List.mem_of_find?_eq_some hfind)
    have hsame : found = s := by
      by_contra hne
      exact honce.forall hmem hs hne ⟨hplace, rfl⟩
    rw [text?, hfind, hsame]
    rfl

end Segments

/-! ## What is looked up in the same files -/

theorem World.SameFiles.noted {w w' : World} (h : w.SameFiles w') (ns : List Note) :
    w.SameFiles (w'.noted ns) := ⟨h.files, h.cwd⟩

namespace Catalog

variable {w w' : World}

/-- A document is fetched alike from the same files. -/
theorem fetch?_of_sameFiles (c : Catalog) (label : String) (h : w.SameFiles w') :
    ((c.fetch? label).perform w').1 = ((c.fetch? label).perform w).1 := by
  cases c with
  | memory m => rfl
  | disk root =>
    exact Act.perform_alike (Disk.asksOnly_fetch? root label) (.of_files h.cwd h.files _)

theorem fetch_of_sameFiles (c : Catalog) (label : String) (h : w.SameFiles w') :
    ((c.fetch label).perform w').1 = ((c.fetch label).perform w).1 := by
  have hfound := c.fetch?_of_sameFiles label h
  rw [fetch, Act.perform_bind, Act.perform_bind, hfound]
  cases ((c.fetch? label).perform w).1 with
  | error e => rfl
  | ok found => cases found <;> rfl

end Catalog

namespace Session

variable {s s' : Session} {label : Option String} {w w' w₁ : World} {r : Reply}

/-- A session fetches alike from the same files. -/
theorem fetch_of_sameFiles {outcome : Except Failure Stored} (hw : w.SameFiles w')
    (h : ((s.fetch label).perform w).1 = outcome) : ((s.fetch label).perform w').1 = outcome :=
  (s.catalog.fetch_of_sameFiles _ hw).trans h

/-- A document that is there is listed with all its scrolls. -/
theorem perform_list {doc : Stored} (h : ((s.fetch label).perform w).1 = .ok doc) :
    ∃ reply w', (s.list label).perform w = (.ok (s, reply), w') ∧
      reply.scrolls = doc.document.scrolls := by
  obtain ⟨w₁, hfetch⟩ := Act.exists_perform_eq h
  rw [list, Act.perform_bind_ok hfetch]
  exact ⟨_, _, Act.perform_bind_ok (perform_noteReading ..) _, rfl⟩

/-- A list that is given shows all scrolls of the document. -/
theorem scrolls_of_list (h : (s.list label).perform w = (.ok (s', r), w')) :
    ∃ doc, ((s.fetch label).perform w).1 = .ok doc ∧ r.scrolls = doc.document.scrolls := by
  obtain ⟨doc, w₁, hfetch⟩ := Act.perform_of_bind_ok h
  have hdoc : ((s.fetch label).perform w).1 = .ok doc := by rw [hfetch]
  obtain ⟨reply, w₂, hlist, hscrolls⟩ := perform_list hdoc
  rw [hlist] at h
  cases h
  exact ⟨doc, hdoc, hscrolls⟩

/-- What is selected at an address of a document that is there. -/
theorem perform_select_address {doc : Stored} (address : String)
    (h : ((s.fetch label).perform w).1 = .ok doc) (hw : w.SameFiles w₁) :
    ∃ reply w₂, (s.select label (some address)).perform w₁ = (.ok (s, reply), w₂) ∧
      reply.selected =
        some ⟨.ofAddress address, doc.document.select (.ofAddress address)⟩ := by
  have hasked : (requested (some address)).perform w₁ =
      (.ok (some (.ofAddress address)), w₁.noted (Coordinate.addressNotes address)) :=
    Act.perform_bind_ok (Act.perform_notes _ w₁) _
  obtain ⟨w₂, hfetch⟩ := Act.exists_perform_eq
    (fetch_of_sameFiles (hw.noted (Coordinate.addressNotes address)) h)
  rw [select, Act.perform_bind_ok hasked, Act.perform_bind_ok hfetch]
  exact ⟨_, _, Act.perform_bind_ok (perform_noteReading ..) _, rfl⟩

/-- **A listed scroll is found at the address it is listed with exactly if that
names its coordinate.** Whatever document is listed and however long it is, a
scroll without a position beyond the 999th is selected by its address, and any
other is not. -/
theorem select_listed_iff {scroll : Scroll} (hlist : (s.list label).perform w = (.ok (s', r), w'))
    (hscroll : scroll ∈ r.scrolls) (hw : w.SameFiles w₁) :
    ∃ reply w₂, (s.select label (some scroll.place.address)).perform w₁ = (.ok (s, reply), w₂) ∧
      (reply.selected = some ⟨scroll.place, some scroll.text⟩ ↔ scroll.place.Addressable) := by
  obtain ⟨doc, hfetch, hscrolls⟩ := scrolls_of_list hlist
  obtain ⟨reply, w₂, hselect, hselected⟩ :=
    perform_select_address scroll.place.address hfetch hw
  refine ⟨reply, w₂, hselect, ?_⟩
  rw [hselected]
  constructor
  · intro h
    have hplace : Coordinate.ofAddress scroll.place.address = scroll.place := by
      simp only [Option.some.injEq, Selection.mk.injEq] at h
      exact h.1
    rw [← hplace]
    exact Coordinate.addressable_ofAddress _
  · intro h
    have hmem : scroll ∈ doc.document.segments.all := by
      rw [hscrolls] at hscroll
      exact (List.mem_filter.mp hscroll).1
    rw [Coordinate.ofAddress_address h, Document.select, Document.segments,
      Segments.text?_of_addressable hmem h]

/-! ## A thousand siblings -/

/-- Two scrolls of one letter, with a number of scroll breaks between them. -/
def farApart (breaks : Nat) : Text := 'x' :: List.replicate breaks '\x17' ++ ['y']

/-- The second letter lies as many steps from the origin as there are breaks. -/
theorem mem_all_farApart (n : Nat) :
    (⟨.origin, ['x']⟩ : Scroll) ∈ (Document.ofText (farApart (n + 1))).segments.all ∧
      ⟨(List.replicate (n + 1) .scroll).foldl Coordinate.advance .origin, ['y']⟩ ∈
        (Document.ofText (farApart (n + 1))).segments.all := by
  have hstep : Delimiters.standard.axis? '\x17' = some .scroll := rfl
  have hx : ∀ ch ∈ ['x'], Delimiters.standard.axis? ch = none := by simp; rfl
  have hy : ∀ ch ∈ ['y'], Delimiters.standard.axis? ch = none := by simp; rfl
  have hfirst : farApart (n + 1) = ['x'] ++ '\x17' :: (List.replicate n '\x17' ++ ['y']) := rfl
  have hlast : farApart (n + 1) = ('x' :: List.replicate n '\x17') ++ '\x17' :: ['y'] := by
    rw [farApart, List.replicate_succ']
    simp
  have hplace : (Scan.last Delimiters.standard.axis? .origin
      ('x' :: List.replicate n '\x17')).advance .scroll =
        (List.replicate (n + 1) .scroll).foldl Coordinate.advance .origin := by
    rw [List.replicate_succ', List.foldl_append, Scan.last, List.filterMap_cons_none rfl,
      List.filterMap_replicate_of_some hstep]
    rfl
  have hall : (Document.ofText (farApart (n + 1))).segments.all =
      Scan.segments Delimiters.standard.axis? .origin (farApart (n + 1)) :=
    Segments.all_ofText _ _
  constructor
  · rw [hall, hfirst, Scan.segments_append_cons hstep, Scan.segments_of_free hx]
    exact List.mem_append_left _ (List.mem_singleton_self _)
  · rw [hall, hlast, Scan.segments_append_cons hstep, hplace, Scan.segments_of_free hy]
    exact List.mem_append_right _ (List.mem_singleton_self _)

/-- The coordinate of the thousandth scroll of the first section. -/
def thousandth : Coordinate :=
  .ofPositions fun a => if a = .scroll then .nearest 1000 else .first

theorem foldl_advance_thousandth :
    (List.replicate 999 .scroll).foldl Coordinate.advance .origin = thousandth := by
  refine Coordinate.ext_get fun a => ?_
  rw [Coordinate.get_foldl_replicate]
  cases a <;> decide

/-- A document of a text, as the first import begins it. -/
def importedDoc (t : Text) : Stored :=
  (Stored.fresh "holiday" default (.ofNat 0)).withText t default

theorem document_importedDoc (t : Text) : (importedDoc t).document = .ofText t := rfl

/-- A session in memory with that document alone. -/
def book (t : Text) : Session := ⟨.memory (Memory.save .empty (importedDoc t)), "home", .standard⟩

/-- The world after the import. -/
def bookWorld (t : Text) : World := { World.ofFile "f" t with ids := 1 }

/-- The first import leads there. -/
theorem goOn_importFile (t : Text) :
    goOn newNotebook (.call (.importFile none "f")) (.ofFile "f" t) =
      (book t, bookWorld t) := by
  have hsource : (World.ofFile "f" t).source "f" = .ok t := Act.decode_bytes t
  have hread : (Act.readSource "f").perform (.ofFile "f" t) = (.ok t, .ofFile "f" t) := by
    rw [Act.perform_readSource, hsource]
    rfl
  have hmeet : (meet newNotebook
      (.call (.importFile none "f"))).perform (.ofFile "f" t) = (.ok (book t), bookWorld t) :=
    (Act.perform_bind (importFile newNotebook none "f") _ _).trans
      (by rw [importFile, Act.perform_bind_ok hread]; rfl)
  rw [goOn, hmeet]

theorem fetch_book (t : Text) (w : World) :
    (((book t).fetch none).perform w).1 = .ok (importedDoc t) := by
  have hfound : Memory.fetch? (Memory.save .empty (importedDoc t)) "holiday" =
      some (importedDoc t) :=
    (Memory.fetch?_save .empty (importedDoc t) "holiday").trans (if_pos rfl)
  rw [book, perform_fetch_some hfound]

/-- The first of a thousand scrolls is found. -/
theorem select_listed_iff_first :
    ∃ r w', ((book (farApart 999)).list none).perform (bookWorld (farApart 999)) =
        (.ok (book (farApart 999), r), w') ∧
      ⟨.origin, ['x']⟩ ∈ r.scrolls ∧ Coordinate.origin.Addressable ∧
      ∃ reply w₂, ((book (farApart 999)).select none (some Coordinate.origin.address)).perform
          (bookWorld (farApart 999)) = (.ok (book (farApart 999), reply), w₂) ∧
        reply.selected = some ⟨.origin, some ['x']⟩ := by
  obtain ⟨r, w', hlist, hscrolls⟩ := perform_list (fetch_book (farApart 999) _)
  have hfirst : ⟨.origin, ['x']⟩ ∈ r.scrolls :=
    hscrolls ▸ List.mem_filter.mpr ⟨(mem_all_farApart 998).1, rfl⟩
  have hplace := Coordinate.addressable_origin
  obtain ⟨reply, w₂, hselect, hiff⟩ := select_listed_iff hlist hfirst ⟨rfl, rfl⟩
  exact ⟨r, w', hlist, hfirst, hplace, reply, w₂, hselect, hiff.mpr hplace⟩

/-- The last of them is listed, and the first is found at the address it is
listed with. -/
theorem select_thousandth :
    goOn newNotebook (.call (.importFile none "f"))
        (.ofFile "f" (farApart 999)) = (book (farApart 999), bookWorld (farApart 999)) ∧
    ∃ r w', ((book (farApart 999)).list none).perform (bookWorld (farApart 999)) =
        (.ok (book (farApart 999), r), w') ∧
      ⟨thousandth, ['y']⟩ ∈ r.scrolls ∧
      ∃ reply w₂, ((book (farApart 999)).select none (some thousandth.address)).perform
          (bookWorld (farApart 999)) = (.ok (book (farApart 999), reply), w₂) ∧
        reply.selected = some ⟨.origin, some ['x']⟩ := by
  obtain ⟨r, w', hlist, hscrolls⟩ := perform_list (fetch_book (farApart 999) _)
  obtain ⟨reply, w₂, hselect, hselected⟩ :=
    perform_select_address thousandth.address (fetch_book (farApart 999) _) ⟨rfl, rfl⟩
  have hmem := (mem_all_farApart 998).2
  simp only [Nat.reduceAdd, foldl_advance_thousandth] at hmem
  have hlast : ⟨thousandth, ['y']⟩ ∈ r.scrolls := hscrolls ▸ List.mem_filter.mpr ⟨hmem, rfl⟩
  have haddress : Coordinate.ofAddress thousandth.address = .origin := rfl
  have hfound : (Document.ofText (farApart 999)).select .origin = some ['x'] :=
    Segments.text?_of_addressable (s := ⟨.origin, ['x']⟩) (mem_all_farApart 998).1
      Coordinate.addressable_origin
  rw [haddress, document_importedDoc, hfound] at hselected
  exact ⟨goOn_importFile _, r, w', hlist, hlast, reply, w₂, hselect, hselected⟩

end Session

end Ninefold
