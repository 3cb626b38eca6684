import Mathlib
import Ninefold.Proofs.Addressing
import Ninefold.Proofs.Reach

/-!
# Nothing to normalize

What an operation writes is woven from cells that hold something, or holds no
delimiter at all, and in either case it is canonical. So as long as no file is
imported, a store that began empty has canonical texts alone, and there is
nothing to normalize in it.
-/

namespace Ninefold

/-! ## Canonical texts -/

/-- A text that normalizing leaves as it is. -/
def Text.Canonical (t : Text) : Prop := (Document.ofText t).normalize = .ofText t

/-- It is enough that the cells of a text are woven into it again. -/
theorem Text.canonical_of_weave {t : Text} (h : weave .standard (Document.ofText t).cells = t) :
    t.Canonical := by
  have hraw : (Document.ofText t).normalize.raw = t := by
    rw [Document.normalize, Document.raw_ofCells]
    exact h
  have hdelimiters := Document.delimiters_normalize (.ofText t)
  unfold Text.Canonical
  generalize (Document.ofText t).normalize = d at hraw hdelimiters
  cases d with
  | mk raw delimiters =>
    cases hraw
    cases hdelimiters
    rfl

/-- A woven text has the cells that it was woven from. -/
theorem Text.canonical_weave {cells : Cells} (hplain : cells.Plain .standard) (hfull : cells.Full) :
    Text.Canonical (weave .standard cells) := by
  refine Text.canonical_of_weave ?_
  have hcells : ((Document.ofText []).ofCells cells).cells = cells :=
    Document.cells_ofCells hplain hfull
  exact congrArg (weave .standard) hcells

namespace Weave

/-- One cell at the origin is the run of its axis, after no step. -/
theorem join_origin (d : Delimiters) (a : Axis) (t : Text) :
    join d a [(.origin, t)] = [(.origin, t)] := by
  have hreset : Coordinate.origin.resetFrom a = .origin := by
    refine Coordinate.ext_get fun b => ?_
    rw [Coordinate.resetFrom, Coordinate.get_restart, Coordinate.get_origin]
    simp
  simp [join, gather, hreset, Coordinate.get_origin]

theorem foldr_join_origin (d : Delimiters) (axes : List Axis) (t : Text) :
    axes.foldr (join d) [(.origin, t)] = [(.origin, t)] := by
  induction axes with
  | nil => rfl
  | cons a rest ih => rw [List.foldr_cons, ih, join_origin]

end Weave

/-- A text without delimiters is the one scroll at the origin. -/
theorem Text.canonical_of_plain {t : Text} (h : Delimiters.standard.firstReserved? t = none) :
    t.Canonical := by
  have hfree : ∀ ch ∈ t, Delimiters.standard.axis? ch = none := by
    intro ch hch
    have hreserved := List.find?_eq_none.mp h ch hch
    exact Delimiters.axis?_eq_none_iff.mpr (by simpa using hreserved)
  have hall : (Document.ofText t).segments.all = [⟨.origin, t⟩] :=
    (Segments.all_ofText _ _).trans (Scan.segments_of_free hfree _)
  refine Text.canonical_of_weave ?_
  rw [Document.cells, Segments.cells, Segments.scrolls, hall]
  cases t with
  | nil => rfl
  | cons ch t =>
    have hentries : (Cells.ofScrolls ([⟨.origin, ch :: t⟩].filter Scroll.written)).entries =
        [(.origin, ch :: t)] := rfl
    rw [weave, hentries, Weave.foldr_join_origin]

/-- Texts are canonical, wherever documents stand and whatever they are
called. -/
def Rule.canonical : Rule where
  place _ := True
  label _ _ := True
  text := Text.Canonical
  place_origin := trivial
  place_ofAddress _ := trivial
  place_set _ _ _ := trivial
  place_next _ _ := trivial
  place_previous _ _ := trivial
  label_self _ := trivial
  label_trimmed _ := trivial
  text_plain := Text.canonical_of_plain
  text_weave := Text.canonical_weave

/-- It asks nothing of a demand but that it is no import. -/
theorem Rule.permits_canonical {home : Home} {cwd : Place} {d : Session.Demand}
    (hd : ¬ d.IsImport) : Rule.canonical.Permits home cwd d where
  imports h := absurd h hd
  writes path _ _ ht := Rule.allows_of_text (fun _ _ => trivial) ht (Path.place cwd path)

namespace Session

variable {s s' : Session} {w w' : World}

/-! ## The same files show the same -/

theorem view_of_sameFiles (s : Session) (h : w.SameFiles w') : s.view w' = s.view w := by
  have hdocument : ∀ label, ((s.catalog.fetch? label).perform w').1 =
      ((s.catalog.fetch? label).perform w).1 := fun label => s.catalog.fetch?_of_sameFiles label h
  have hsettings : w'.files.shows w'.cwd (Settings.path s.root) =
      w.files.shows w.cwd (Settings.path s.root) := by rw [h.files, h.cwd]
  have hrecords : (s.catalog.list.perform w').1 = (s.catalog.list.perform w).1 := by
    cases s.catalog with
    | memory m => rfl
    | disk store =>
      have hindex : ((Disk.loadIndex store).perform w').1 = ((Disk.loadIndex store).perform w).1 :=
        Disk.loadIndex_congr h.cwd (by rw [h.files, h.cwd])
      exact Disk.list_congr h.cwd hindex fun hthere => by rwa [h.files]
  exact View.ext hrecords (funext hdocument) hsettings rfl

/-- Normalizing a document with a canonical text says that there is nothing to
do, and does nothing. -/
theorem perform_normalize_canonical {label : Option String} {doc : Stored}
    (hdoc : ((s.catalog.fetch? (s.settings.resolveLabel label)).perform w).1 = .ok (some doc))
    (hraw : doc.raw.Canonical) :
    ∃ w', (s.normalize label).perform w = (.ok (s, .info
        (labelInQuotes (s.settings.resolveLabel label) ++ " is already normalized")), w') ∧
      w.SameFiles w' := by
  have hsame : ∀ w', ((s.catalog.fetch? (s.settings.resolveLabel label)).perform w).2 = w' →
      w.SameFiles w' := fun w' hw' =>
    .of_quiet ⟨rfl, rfl⟩ (s.catalog.quiet_fetch? _) (Prod.ext rfl hw')
  cases hrun : (s.catalog.fetch? (s.settings.resolveLabel label)).perform w with
  | mk r w₁ =>
    rw [hrun] at hdoc hsame
    cases hdoc
    have hfetch : (s.fetch label).perform w = (.ok doc, w₁) := Act.perform_bind_ok hrun _
    have hkept : doc.document.normalize.raw = doc.raw := congrArg Document.raw hraw
    refine ⟨w₁.noted (.replicate 1 doc.document.readingNote), ?_, (hsame w₁ rfl).noted _⟩
    rw [normalize, Act.perform_bind_ok hfetch]
    refine (Act.perform_bind_ok (perform_noteReading ..) _).trans ?_
    rw [if_pos hkept]
    rfl

/-- **Without imports there is never anything to normalize.** From a store
without documents, after any demands but imports, met or failed, and as long as
others leave the session's own files alone: every document is its own normal
form, and normalizing one says so and changes nothing that can be seen. -/
theorem Reaches.already_normalized (h : s.Reaches (fun _ d => ¬ d.IsImport) s.SparedIn w s' w')
    (hblank : s.catalog.Blank w) :
    (∀ label doc, ((s'.catalog.fetch? label).perform w').1 = .ok (some doc) →
      doc.document.normalize = doc.document) ∧
    ∀ label doc,
      ((s'.catalog.fetch? (s'.settings.resolveLabel label)).perform w').1 = .ok (some doc) →
      ∃ w'', (s'.normalize label).perform w' = (.ok (s', .info
          (labelInQuotes (s'.settings.resolveLabel label) ++ " is already normalized")), w'') ∧
        s'.view w'' = s'.view w' := by
  obtain ⟨hs', hw'⟩ := h.holds (r := Rule.canonical)
    ⟨rfl, Rule.stocks_of_blank hblank, trivial⟩
    (Rule.obeys_of_blank hblank fun _ _ _ _ => Reading.yields_true _)
    (fun _ _ hd => Rule.permits_canonical hd) (fun _ _ hspared => Rule.obeys_of_spared hspared)
  have hcanonical : ∀ label doc, ((s'.catalog.fetch? label).perform w').1 = .ok (some doc) →
      doc.raw.Canonical := fun label doc hdoc =>
    ((Rule.upholds_fetchFrom? hs'.catalog label w' ⟨rfl, hw'⟩).2 _ hdoc doc rfl).text
  refine ⟨hcanonical, ?_⟩
  intro label doc hdoc
  obtain ⟨w'', hnormalize, hsame⟩ := perform_normalize_canonical hdoc (hcanonical _ doc hdoc)
  exact ⟨w'', hnormalize, s'.view_of_sameFiles hsame⟩

/-- A letter inserted two scrolls on. -/
def jotDown : Demand := .call (.insert none (some "1.1.1/1.1.1/1.1.3") ['x'])

/-- The document that the letter begins. -/
def jottedDoc : Stored :=
  ((Stored.fresh "holiday" default (.ofNat 0)).withText ['\x17', '\x17', 'x'] default).moveTo
    (.set .origin .scroll 3)

set_option maxRecDepth 10000 in
theorem fetch_jotDown :
    (((newNotebook.goOn jotDown .bare).1.catalog.fetch?
      ((newNotebook.goOn jotDown .bare).1.settings.resolveLabel none)).perform
        (newNotebook.goOn jotDown .bare).2).1 = .ok (some jottedDoc) := by
  have hsession : (newNotebook.goOn jotDown .bare).1 =
      ⟨.memory (Memory.save .empty jottedDoc), "home", .standard⟩ := rfl
  rw [hsession, perform_fetch?, Memory.fetch?_save]
  rfl

/-- The two breaks before it are no empty structure. -/
theorem already_normalized_jotDown :
    newNotebook.catalog.Blank .bare ∧
    newNotebook.Reaches (fun _ d => ¬ d.IsImport) newNotebook.SparedIn .bare
      (newNotebook.goOn jotDown .bare).1 (newNotebook.goOn jotDown .bare).2 ∧
    (((newNotebook.goOn jotDown .bare).1.catalog.fetch?
      ((newNotebook.goOn jotDown .bare).1.settings.resolveLabel none)).perform
        (newNotebook.goOn jotDown .bare).2).1 = .ok (some jottedDoc) ∧
    jottedDoc.document.normalize = jottedDoc.document ∧
    ∃ w'', ((newNotebook.goOn jotDown .bare).1.normalize none).perform
        (newNotebook.goOn jotDown .bare).2 = (.ok ((newNotebook.goOn jotDown .bare).1, .info
          (labelInQuotes ((newNotebook.goOn jotDown .bare).1.settings.resolveLabel none) ++
            " is already normalized")), w'') ∧
      (newNotebook.goOn jotDown .bare).1.view w'' =
        (newNotebook.goOn jotDown .bare).1.view (newNotebook.goOn jotDown .bare).2 := by
  have hblank : newNotebook.catalog.Blank .bare := rfl
  have hrun : newNotebook.Reaches (fun _ d => ¬ d.IsImport) newNotebook.SparedIn .bare
      (newNotebook.goOn jotDown .bare).1 (newNotebook.goOn jotDown .bare).2 :=
    .demand jotDown .start fun h => h
  obtain ⟨hnormal, hsays⟩ := hrun.already_normalized hblank
  exact ⟨hblank, hrun, fetch_jotDown, hnormal _ jottedDoc fetch_jotDown,
    hsays none jottedDoc fetch_jotDown⟩

end Session

end Ninefold
