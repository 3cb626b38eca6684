import Mathlib
import Ninefold.Proofs.Edits
import Ninefold.Proofs.Keeping
import Ninefold.Proofs.Odometer

/-!
# The files of a directory placed

The files of a directory that are plain text go to one coordinate after another,
each to the successor of the one before it; any other file is skipped with a
warning and uses no coordinate up. If there are enough coordinates ahead, all of
them are placed and nothing else in the document changes. If there are not, the
operation fails at the first file for which none is left, and nothing changes.
-/

namespace Ninefold

/-! ## Many cells written -/

/-- The cells with one text after another written at its coordinate. -/
def Cells.writeAll (cells : Cells) (pairs : List (Coordinate × Text)) : Cells :=
  pairs.foldl (fun cells p => cells.write p.1 p.2) cells

/-- The document with one text after another written at its coordinate. -/
def Document.writeAll (doc : Document) (pairs : List (Coordinate × Text)) : Document :=
  pairs.foldl (fun doc p => doc.write p.1 p.2) doc

namespace Cells

variable {pairs : List (Coordinate × Text)}

theorem get?_writeAll_of_notMem {c : Coordinate} (cells : Cells) (h : c ∉ pairs.map Prod.fst) :
    (cells.writeAll pairs).get? c = cells.get? c := by
  induction pairs generalizing cells with
  | nil => rfl
  | cons p rest ih =>
    rw [List.map_cons, List.mem_cons, not_or] at h
    rw [writeAll, List.foldl_cons, ← writeAll, ih _ h.2, get?_write, if_neg h.1]

/-- What is written at different coordinates is all there in the end. -/
theorem get?_writeAll_of_mem {p : Coordinate × Text} (cells : Cells)
    (hpairs : (pairs.map Prod.fst).Nodup) (h : p ∈ pairs) :
    (cells.writeAll pairs).get? p.1 = if p.2 = [] then none else some p.2 := by
  induction pairs generalizing cells with
  | nil => cases h
  | cons q rest ih =>
    obtain ⟨hq, hrest⟩ := List.nodup_cons.mp hpairs
    rw [writeAll, List.foldl_cons, ← writeAll]
    rcases List.mem_cons.mp h with rfl | h
    · rw [get?_writeAll_of_notMem _ hq, get?_write, if_pos rfl]
      simp only [List.isEmpty_iff]
    · exact ih _ hrest h

end Cells

namespace Document

variable {doc : Document} {pairs : List (Coordinate × Text)}

@[simp] theorem delimiters_writeAll (doc : Document) (pairs : List (Coordinate × Text)) :
    (doc.writeAll pairs).delimiters = doc.delimiters := by
  induction pairs generalizing doc with
  | nil => rfl
  | cons p rest ih => rw [writeAll, List.foldl_cons, ← writeAll, ih, delimiters_write]

theorem cells_writeAll (h : ∀ p ∈ pairs, doc.delimiters.firstReserved? p.2 = none) :
    (doc.writeAll pairs).cells = doc.cells.writeAll pairs := by
  induction pairs generalizing doc with
  | nil => rfl
  | cons p rest ih =>
    obtain ⟨hp, hrest⟩ := List.forall_mem_cons.mp h
    rw [writeAll, List.foldl_cons, ← writeAll, ih (by rwa [delimiters_write]), cells_write hp]
    rfl

end Document

/-! ## The files of a directory -/

namespace World

variable (w : World) (directory : String)

/-- The text of a file that can be a scroll: it is UTF-8 and holds no
delimiter. -/
def plainText? (path : String) : Option Text :=
  (w.source path).toOption.filter fun t => (Delimiters.standard.firstReserved? t).isNone

/-- Of the names in a directory those of files, in order. -/
def fileNames (names : List String) : List String :=
  (names.mergeSort fun a b => decide (¬ b < a)).filter fun name =>
    w.files.isFile w.cwd (Path.child directory name)

/-- The files that can be scrolls, with their texts. -/
def plainFiles (files : List String) : List (String × Text) :=
  files.filterMap fun name => (w.plainText? (Path.child directory name)).map (name, ·)

/-- The files that cannot. -/
def otherFiles (files : List String) : List String :=
  files.filter fun name => (w.plainText? (Path.child directory name)).isNone

variable {w directory}

theorem mem_fileNames {names : List String} {name : String} :
    name ∈ w.fileNames directory names ↔
      name ∈ names ∧ w.files.isFile w.cwd (Path.child directory name) = true := by
  rw [fileNames, List.mem_filter, List.mem_mergeSort]

/-- They are in order, whatever the order is that the directory has them in. -/
theorem pairwise_fileNames (names : List String) :
    (w.fileNames directory names).Pairwise fun a b => ¬ b < a := by
  have htrans : ∀ a b c : String, decide (¬ b < a) → decide (¬ c < b) → decide (¬ c < a) := by
    intro a b c hab hbc
    simp only [decide_eq_true_eq, String.not_lt] at hab hbc ⊢
    exact String.le_trans hab hbc
  have htotal : ∀ a b : String, (decide (¬ b < a) || decide (¬ a < b)) = true := by
    intro a b
    simp only [Bool.or_eq_true, decide_eq_true_eq, String.not_lt]
    exact String.le_total a b
  refine ((List.pairwise_mergeSort htrans htotal names).filter _).imp ?_
  intro a b hab
  exact of_decide_eq_true hab

theorem plainText?_eq_some_iff {path : String} {t : Text} :
    w.plainText? path = some t ↔
      w.source path = .ok t ∧ Delimiters.standard.firstReserved? t = none := by
  unfold plainText?
  cases w.source path with
  | error e => simp [Except.toOption]
  | ok u =>
    simp only [Except.toOption, Option.filter_eq_some_iff, Option.some.injEq, Except.ok.injEq,
      Option.isNone_iff_eq_none]

theorem plainText?_of_sameFiles {w' : World} (h : w.SameFiles w') (path : String) :
    w'.plainText? path = w.plainText? path := by
  rw [plainText?, plainText?, source, source, h.files, h.cwd]

theorem plainFiles_of_sameFiles {w' : World} (h : w.SameFiles w') (files : List String) :
    w'.plainFiles directory files = w.plainFiles directory files := by
  simp only [plainFiles, plainText?_of_sameFiles h]

theorem otherFiles_of_sameFiles {w' : World} (h : w.SameFiles w') (files : List String) :
    w'.otherFiles directory files = w.otherFiles directory files := by
  simp only [otherFiles, plainText?_of_sameFiles h]

theorem plainFiles_cons_of_none {name : String} {files : List String}
    (h : w.plainText? (Path.child directory name) = none) :
    w.plainFiles directory (name :: files) = w.plainFiles directory files :=
  List.filterMap_cons_none (by rw [h]; rfl)

theorem plainFiles_cons_of_some {name : String} {files : List String} {t : Text}
    (h : w.plainText? (Path.child directory name) = some t) :
    w.plainFiles directory (name :: files) = (name, t) :: w.plainFiles directory files :=
  List.filterMap_cons_some (by rw [h]; rfl)

theorem otherFiles_cons_of_none {name : String} {files : List String}
    (h : w.plainText? (Path.child directory name) = none) :
    w.otherFiles directory (name :: files) = name :: w.otherFiles directory files :=
  List.filter_cons_of_pos (by rw [h]; rfl)

theorem otherFiles_cons_of_some {name : String} {files : List String} {t : Text}
    (h : w.plainText? (Path.child directory name) = some t) :
    w.otherFiles directory (name :: files) = w.otherFiles directory files :=
  List.filter_cons_of_neg (by rw [h]; simp)

theorem firstReserved?_plainFiles {files : List String} {file : String × Text}
    (h : file ∈ w.plainFiles directory files) :
    Delimiters.standard.firstReserved? file.2 = none := by
  obtain ⟨name, -, hname⟩ := List.mem_filterMap.mp h
  obtain ⟨t, ht, rfl⟩ := Option.map_eq_some_iff.mp hname
  exact (plainText?_eq_some_iff.mp ht).2

end World

namespace Session

variable {w : World} {directory : String} {f : Filling}

/-- What is said of a file that is skipped. -/
def Filling.skipped (name : String) : Message :=
  ⟨.warning, "Skipped " ++ name ++ " (not plain text)"⟩

theorem perform_namesIn {names : List String} (h : w.files.list w.cwd directory = .ok names) :
    (namesIn directory).perform w =
      (.ok (names.mergeSort fun a b => decide (¬ b < a)), w) := by
  have hlist : (Act.send (.list directory)).perform w = (.ok (.ok names), w) :=
    congrArg (fun r => (Except.ok r, w)) h
  rw [namesIn, Act.perform_bind_ok hlist]
  rfl

theorem perform_filesOf (names : List String) :
    (filesOf directory names).perform w =
      (.ok (names.filter fun name => w.files.isFile w.cwd (Path.child directory name)), w) := by
  induction names with
  | nil => rfl
  | cons name rest ih =>
    have hfile : (Act.send (.isFile (Path.child directory name))).perform w =
        (.ok (w.files.isFile w.cwd (Path.child directory name)), w) := rfl
    rw [filesOf, Act.perform_bind_ok hfile, Act.perform_bind_ok ih, List.filter_cons]
    rfl

namespace Filling

/-! ## One file -/

/-- Only a file that can be a scroll is placed. -/
theorem perform_takeFile (hf : f.document.delimiters = .standard) (directory name : String)
    (w : World) : (f.takeFile .ordinary directory name).perform w =
      match w.plainText? (Path.child directory name) with
      | none => (.ok (f.skip name), w)
      | some t => (f.place .ordinary name t).perform w := by
  have hread : (Act.send (.read (Path.child directory name))).perform w =
      (.ok (w.files.read w.cwd (Path.child directory name)), w) := rfl
  rw [takeFile, Act.perform_bind_ok hread, hf]
  unfold World.plainText?
  cases hsource : w.source (Path.child directory name) with
  | error e =>
    have hdecode : Act.decode (w.files.read w.cwd (Path.child directory name)) = .error e := hsource
    rw [hdecode]
    rfl
  | ok t =>
    have hdecode : Act.decode (w.files.read w.cwd (Path.child directory name)) = .ok t := hsource
    simp only [hdecode, Except.toOption, Option.filter_some]
    cases Delimiters.standard.firstReserved? t with
    | none => rfl
    | some ch => rfl

/-- The filling with the text of a file at a coordinate. -/
def putAt (f : Filling) (c : Coordinate) (name : String) (t : Text) : Filling where
  document := f.document.write c t
  free := c.successor
  placed := f.placed ++ [⟨c, Text.ofString name⟩]
  messages := f.messages

/-- A text that can be a scroll is put at the free coordinate. -/
theorem perform_place {t : Text} {c : Coordinate} (hfree : f.free = some c)
    (ht : f.document.delimiters.firstReserved? t = none) (name : String) (w : World) :
    (f.place .ordinary name t).perform w =
      (.ok (f.putAt c name t), w.noted [.slurping name c, f.document.readingNote]) := by
  have hedit : (Act.edited (f.document.replace c t)).perform (w.noted [.slurping name c]) =
      (.ok (f.document.write c t), w.noted [.slurping name c]) := by
    rw [perform_edited, Document.replace_eq ht]
    rfl
  unfold place
  rw [hfree]
  refine (Act.perform_bind_ok (Act.perform_notes _ w) _).trans ?_
  rw [Act.perform_bind_ok hedit, Act.perform_bind_ok (perform_noteReading ..), World.noted_noted]
  rfl

/-- Where no coordinate is free, it is refused. -/
theorem perform_place_full (hfree : f.free = none) (name : String) (t : Text) (w : World) :
    (f.place .ordinary name t).perform w = (.error (.noPlaceLeft name), w) := by
  unfold place
  rw [hfree]
  rfl

/-! ## File after file -/

/-- The scrolls that say where files have been placed. -/
def listing (places : List Coordinate) (plain : List (String × Text)) : List Scroll :=
  List.zipWith (fun c file => ⟨c, Text.ofString file.1⟩) places plain

/-- The filling with files placed, each at the successor of the coordinate of
the one before it, and with others skipped. -/
def filled (f : Filling) (plain : List (String × Text)) (others : List String) : Filling where
  document := f.document.writeAll
    ((Coordinate.course plain.length f.free).zip (plain.map Prod.snd))
  free := (· >>= Coordinate.successor)^[plain.length] f.free
  placed := f.placed ++ listing (Coordinate.course plain.length f.free) plain
  messages := f.messages ++ others.map skipped

theorem filled_nil (f : Filling) : f.filled [] [] = f := by
  simp [filled, Coordinate.course, Document.writeAll, listing]

theorem filled_skip (f : Filling) (name : String) (plain : List (String × Text))
    (others : List String) :
    (f.skip name).filled plain others = f.filled plain (name :: others) := by
  simp [filled, skip, skipped]

theorem filled_place {c : Coordinate} (hfree : f.free = some c) (name : String) (t : Text)
    (plain : List (String × Text)) (others : List String) :
    (f.putAt c name t).filled plain others = f.filled ((name, t) :: plain) others := by
  simp [filled, putAt, hfree, Coordinate.course, Document.writeAll, listing]

theorem placed_filled_start (doc : Document) (c : Coordinate) (plain : List (String × Text))
    (others : List String) : ((start doc c).filled plain others).placed =
      listing (Coordinate.course plain.length (some c)) plain := List.nil_append _

theorem messages_filled_start (doc : Document) (c : Coordinate) (plain : List (String × Text))
    (others : List String) :
    ((start doc c).filled plain others).messages = others.map skipped := List.nil_append _

/-- What files come to: all are placed or skipped, or the first that finds no
coordinate is refused. -/
noncomputable def outcome (f : Filling) (plain : List (String × Text)) (others : List String) :
    Except Failure Filling :=
  match plain[Coordinate.room f.free]? with
  | none => .ok (f.filled plain others)
  | some file => .error (.noPlaceLeft file.1)

theorem outcome_skip (f : Filling) (name : String) (plain : List (String × Text))
    (others : List String) :
    (f.skip name).outcome plain others = f.outcome plain (name :: others) := by
  rw [outcome, outcome, filled_skip]
  rfl

theorem outcome_place {c : Coordinate} (hfree : f.free = some c) (hc : c.Addressable)
    (name : String) (t : Text) (plain : List (String × Text)) (others : List String) :
    (f.putAt c name t).outcome plain others = f.outcome ((name, t) :: plain) others := by
  rw [outcome, outcome, hfree, Coordinate.room_some hc, List.getElem?_cons_succ,
    filled_place hfree]
  rfl

theorem outcome_full (hfree : f.free = none) (name : String) (t : Text)
    (plain : List (String × Text)) (others : List String) :
    f.outcome ((name, t) :: plain) others = .error (.noPlaceLeft name) := by
  rw [outcome, hfree]
  rfl

/-- One file after another is taken: those that can be scrolls go to the free
coordinates, and the others use none up. -/
theorem perform_takeFiles (hf : f.document.delimiters = .standard)
    (hfree : ∀ c ∈ f.free, c.Addressable) (directory : String) (files : List String) (w : World) :
    ∃ ns, (takeFiles .ordinary directory files f).perform w =
      (f.outcome (w.plainFiles directory files) (w.otherFiles directory files), w.noted ns) := by
  induction files generalizing f w with
  | nil =>
    refine ⟨[], ?_⟩
    have hdone : f.outcome [] [] = .ok f := congrArg Except.ok f.filled_nil
    rw [World.noted_nil]
    exact congrArg (fun r => (r, w)) hdone.symm
  | cons name rest ih =>
    have hfile := perform_takeFile hf directory name w
    cases htext : w.plainText? (Path.child directory name) with
    | none =>
      rw [htext] at hfile
      obtain ⟨ns, hrest⟩ := ih (f := f.skip name) hf hfree w
      refine ⟨ns, ?_⟩
      rw [takeFiles, Act.perform_bind_ok hfile, hrest, outcome_skip,
        World.plainFiles_cons_of_none htext, World.otherFiles_cons_of_none htext]
    | some t =>
      rw [htext] at hfile
      have hplain := (World.plainText?_eq_some_iff.mp htext).2
      rw [World.plainFiles_cons_of_some htext, World.otherFiles_cons_of_some htext]
      cases hc : f.free with
      | none =>
        refine ⟨[], ?_⟩
        have hrefused := hfile.trans (perform_place_full hc name t w)
        rw [takeFiles, Act.perform_bind_error hrefused, outcome_full hc, World.noted_nil]
      | some c =>
        have haddressable := hfree c hc
        have hplace := hfile.trans (perform_place hc (hf ▸ hplain) name w)
        have hdelimiters : (f.putAt c name t).document.delimiters = .standard :=
          (Document.delimiters_write ..).trans hf
        -- the notes change nothing about the files that are still to come
        obtain ⟨ns, hrest⟩ := ih hdelimiters (fun e he => haddressable.successor he)
          (w.noted [.slurping name c, f.document.readingNote])
        refine ⟨[.slurping name c, f.document.readingNote] ++ ns, ?_⟩
        rw [takeFiles, Act.perform_bind_ok hplace, hrest, outcome_place hc haddressable,
          World.noted_noted]
        rfl

end Filling

/-! ## The whole directory -/

variable {s : Session} {label address : Option String} {names : List String}

/-- What is left to do when the files have been placed. -/
def keepFilled (s : Session) (label : Option String) (directory : String) (doc : Stored)
    (first : Coordinate) (filled : Filling) : Act (Session × Reply) := do
  let s' ← s.save ((doc.withText filled.document.raw (← Act.send .now)).moveTo first)
  let summary : Message :=
    ⟨.success, "Slurped " ++ toString filled.placed.length ++ " files from " ++ directory ++
      " into " ++ labelInQuotes (s.settings.resolveLabel label) ++ " at " ++ first.address⟩
  return (s', { Reply.empty with
    messages := filled.messages ++ [summary], scrolls := filled.placed })

/-- The files of a directory are placed into the document of the label, or one
that is begun, from the address on. -/
theorem perform_slurp (horder : s.catalog.InOrder w)
    (hlist : w.files.list w.cwd directory = .ok names) {start : Coordinate}
    (htarget : ((s.catalog.ledger w).begun (s.settings.resolveLabel label)).target address = start)
    (hstart : start.Addressable) :
    ∃ doc w', w.SameFiles w' ∧ doc.record.label = s.settings.resolveLabel label ∧
      doc.sheet = (s.catalog.ledger w).begun (s.settings.resolveLabel label) ∧
      s.catalog.Takes w' doc ∧
      (s.slurp .ordinary label address directory).perform w =
        match (Filling.start doc.document start).outcome
            (w.plainFiles directory (w.fileNames directory names))
            (w.otherFiles directory (w.fileNames directory names)) with
        | .ok filled => (s.keepFilled label directory doc start filled).perform w'
        | .error e => (.error e, w') := by
  obtain ⟨ns, hrequest⟩ := exists_perform_requested address w
  have hnames := perform_namesIn (w := w.noted ns) hlist
  have hfiles : (filesOf directory (names.mergeSort fun a b => decide (¬ b < a))).perform
      (w.noted ns) = (.ok (w.fileNames directory names), w.noted ns) := perform_filesOf _
  obtain ⟨doc, w₁, hfetch, hsame, hclock, hlabel, hsheet, htakes⟩ :=
    (horder.noted ns).fetchOrStart (s.settings.resolveLabel label)
  have hnoted : w.SameFiles (w.noted ns) := ⟨rfl, rfl⟩
  rw [s.catalog.ledger_of_sameFiles hnoted] at hsheet
  have hfirst : doc.target (address.map .ofAddress) = start := by
    rw [← htarget, ← hsheet]
    rfl
  have hfree : ∀ c ∈ (Filling.start doc.document start).free, c.Addressable := by
    intro c hc
    cases hc
    exact hstart
  obtain ⟨ns', htaken⟩ := Filling.perform_takeFiles (f := .start doc.document start) rfl hfree
    directory (w.fileNames directory names) w₁
  have hsame₁ : w.SameFiles w₁ := ⟨hsame.files, hsame.cwd⟩
  rw [World.plainFiles_of_sameFiles hsame₁, World.otherFiles_of_sameFiles hsame₁] at htaken
  refine ⟨doc, w₁.noted ns', hsame₁.noted ns', hlabel, hsheet,
    htakes.of_sameFiles ⟨rfl, rfl⟩ rfl, ?_⟩
  rw [slurp, Act.perform_bind_ok hrequest, Act.perform_bind_ok hnames, Act.perform_bind_ok hfiles]
  refine (Act.perform_bind_ok hfetch _).trans ?_
  rw [hfirst]
  cases houtcome : (Filling.start doc.document start).outcome
      (w.plainFiles directory (w.fileNames directory names))
      (w.otherFiles directory (w.fileNames directory names)) with
  | error e =>
    rw [houtcome] at htaken
    exact Act.perform_bind_error htaken _
  | ok filled =>
    rw [houtcome] at htaken
    exact Act.perform_bind_ok htaken _

/-- What has been placed is kept, and the document stands where the first file
went. -/
theorem perform_keepFilled {doc : Stored} {start : Coordinate} {filled : Filling}
    (htakes : s.catalog.Takes w doc) (hstart : start.Addressable)
    (hfilled : filled.document.delimiters = .standard) (label : Option String)
    (directory : String) :
    ∃ s' w', (s.keepFilled label directory doc start filled).perform w =
        (.ok (s', { Reply.empty with
          messages := filled.messages ++ [⟨.success,
            "Slurped " ++ toString filled.placed.length ++ " files from " ++ directory ++
              " into " ++ labelInQuotes (s.settings.resolveLabel label) ++ " at " ++
              start.address⟩],
          scrolls := filled.placed }), w') ∧
      s'.catalog.ledger w' =
        (s.catalog.ledger w).set doc.record.label (some ⟨start, filled.document.cells.get?⟩) := by
  obtain ⟨c', w', hsave, hledger⟩ := (htakes.edited filled.document.raw start).save hstart
  have hsession : (s.save ((doc.withText filled.document.raw w.clock).moveTo start)).perform w =
      (.ok { s with catalog := c' }, w') := Act.perform_bind_ok hsave _
  refine ⟨{ s with catalog := c' }, w', ?_, ?_⟩
  · rw [keepFilled, Act.perform_bind_ok (Act.perform_send .now w)]
    exact Act.perform_bind_ok hsession _
  · have hdocument : ((doc.withText filled.document.raw w.clock).moveTo start).document =
        filled.document := Document.ofText_raw hfilled
    rw [hledger, Stored.sheet, hdocument]
    rfl

/-- What a document holds when texts have been written at the coordinates of a
course: those texts there, and elsewhere what it held. -/
theorem get?_writeAll_course {doc : Document} {plain : List (String × Text)}
    (hplain : ∀ file ∈ plain, doc.delimiters.firstReserved? file.2 = none)
    {places : List Coordinate} (hlength : places.length = plain.length)
    (hascend : places.Pairwise fun c d => c < d) :
    (∀ p ∈ places.zip plain, (doc.writeAll (places.zip (plain.map Prod.snd))).cells.get? p.1 =
        if p.2.2 = [] then none else some p.2.2) ∧
      ∀ c, c ∉ places →
        (doc.writeAll (places.zip (plain.map Prod.snd))).cells.get? c = doc.cells.get? c := by
  have hfst : (places.zip (plain.map Prod.snd)).map Prod.fst = places :=
    List.map_fst_zip (by rw [List.length_map, hlength])
  have hfree : ∀ p ∈ places.zip (plain.map Prod.snd),
      doc.delimiters.firstReserved? p.2 = none := by
    intro p hp
    obtain ⟨file, hfile, heq⟩ := List.mem_map.mp (List.of_mem_zip hp).2
    exact heq ▸ hplain file hfile
  rw [Document.cells_writeAll hfree]
  constructor
  · intro p hp
    have hmem : (p.1, p.2.2) ∈ places.zip (plain.map Prod.snd) := by
      rw [List.zip_map_right]
      exact List.mem_map.mpr ⟨p, hp, rfl⟩
    refine Cells.get?_writeAll_of_mem doc.cells ?_ hmem
    rw [hfst]
    exact hascend.imp KeyOrder.ne_of_lt
  · intro c hc
    exact Cells.get?_writeAll_of_notMem doc.cells (hfst.symm ▸ hc)

/-- **All files of a directory are placed, or none is.** The files that are
plain text go to the start and its successors, in the order of their names, if
there are as many coordinates from the start on as there are files. Then the
cells there hold their texts, where an empty file clears its cell, all other
cells and documents are kept, the document stands at the start, the placed files
are listed with their coordinates, and each of the others is warned of.
Otherwise the operation fails, and all that can be seen stays as it was. -/
theorem slurp_all_or_nothing (horder : s.catalog.InOrder w)
    (hlist : w.files.list w.cwd directory = .ok names) {start : Coordinate}
    (htarget : ((s.catalog.ledger w).begun (s.settings.resolveLabel label)).target address = start)
    (hstart : start.Addressable) {plain : List (String × Text)}
    (hplain : w.plainFiles directory (w.fileNames directory names) = plain) :
    (plain.length ≤ {c : Coordinate | c.Addressable ∧ ¬ c < start}.ncard →
      ∃ s' w' places texts,
        (s.call (.slurp label address directory)).perform w = (.ok (s', { Reply.empty with
          messages :=
            (w.otherFiles directory (w.fileNames directory names)).map
              (fun name => ⟨.warning, "Skipped " ++ name ++ " (not plain text)"⟩) ++
            [⟨.success, "Slurped " ++ toString plain.length ++ " files from " ++ directory ++
              " into " ++ labelInQuotes (s.settings.resolveLabel label) ++ " at " ++
              start.address⟩],
          scrolls := List.zipWith (fun c file => ⟨c, Text.ofString file.1⟩) places plain }),
          w') ∧
        places.length = plain.length ∧
        (∀ (i : Nat) (h : i < places.length),
          (· >>= Coordinate.successor)^[i] (some start) = some places[i]) ∧
        places.Pairwise (fun c d => c < d) ∧
        s'.catalog.ledger w' =
          (s.catalog.ledger w).set (s.settings.resolveLabel label) (some ⟨start, texts⟩) ∧
        (∀ p ∈ places.zip plain, texts p.1 = if p.2.2 = [] then none else some p.2.2) ∧
        ∀ c, c ∉ places →
          texts c = ((s.catalog.ledger w).begun (s.settings.resolveLabel label)).texts c) ∧
    ({c : Coordinate | c.Addressable ∧ ¬ c < start}.ncard < plain.length →
      ∃ name w', (s.call (.slurp label address directory)).perform w =
          (.error (.noPlaceLeft name), w') ∧
        w'.files = w.files ∧ s.view w' = s.view w) := by
  obtain ⟨doc, w₁, hsame, hlabel, hsheet, htakes, hrun⟩ :=
    perform_slurp horder hlist htarget hstart
  rw [hplain, Filling.outcome] at hrun
  have hfree : ∀ file ∈ plain, doc.document.delimiters.firstReserved? file.2 = none :=
    hplain ▸ fun file => World.firstReserved?_plainFiles
  constructor
  · intro hroom
    have henough : plain.length ≤ Coordinate.room (some start) := hroom
    have haddressable : ∀ c ∈ some start, c.Addressable := by
      rintro c ⟨⟩
      exact hstart
    have hlength := Coordinate.length_course haddressable henough
    have hascend := Coordinate.pairwise_course plain.length (some start)
    have hnone : plain[Coordinate.room (Filling.start doc.document start).free]? = none :=
      List.getElem?_eq_none henough
    rw [hnone] at hrun
    have hdelimiters : ((Filling.start doc.document start).filled plain
        (w.otherFiles directory (w.fileNames directory names))).document.delimiters = .standard :=
      Document.delimiters_writeAll _ _
    obtain ⟨s', w', hkeep, hledger⟩ :=
      perform_keepFilled htakes hstart hdelimiters label directory
    obtain ⟨hthere, helsewhere⟩ := get?_writeAll_course hfree hlength hascend
    refine ⟨s', w', Coordinate.course plain.length (some start), _, (hrun.trans hkeep).trans ?_,
      hlength, fun i h => Coordinate.iterate_successor_course h, hascend, ?_, hthere, ?_⟩
    · rw [Filling.placed_filled_start, Filling.messages_filled_start, Filling.listing,
        List.length_zipWith, hlength, Nat.min_self]
      rfl
    · rw [hledger, hlabel, s.catalog.ledger_of_sameFiles hsame]
      rfl
    · intro c hc
      rw [helsewhere c hc, ← hsheet]
      rfl
  · intro hroom
    have hlack : Coordinate.room (some start) < plain.length := hroom
    have hsome : plain[Coordinate.room (Filling.start doc.document start).free]? =
        some plain[Coordinate.room (some start)] := List.getElem?_eq_getElem hlack
    rw [hsome] at hrun
    exact ⟨_, w₁, hrun, hsame.files, s.view_of_sameFiles hsame⟩

/-- A directory with a letter, a file that is no text, and an empty file. -/
def cabinet : World :=
  ⟨⟨.ofList [(["d"], .directory), (["d", "a"], .file (Text.bytes ['x'])),
    (["d", "b"], .file ⟨#[255]⟩), (["d", "c"], .file .empty)]⟩, [], default, 0, .empty, [], []⟩

theorem plainFiles_cabinet :
    cabinet.plainFiles "d" (cabinet.fileNames "d" ["a", "b", "c"]) = [("a", ['x']), ("c", [])] := by
  have hnames : cabinet.fileNames "d" ["a", "b", "c"] = ["a", "b", "c"] := by
    rw [World.fileNames, List.mergeSort_of_pairwise (by decide)]
    decide +kernel
  rw [hnames]
  decide +kernel

theorem inOrder_cabinet : newHome.catalog.InOrder cabinet :=
  Catalog.inOrder_of_vacant ⟨rfl, rfl, by decide⟩ ⟨by decide, by decide, by decide⟩

/-- From the origin on there is room for two files. -/
theorem two_le_ncard_origin : 2 ≤ {c : Coordinate | c.Addressable ∧ ¬ c < .origin}.ncard := by
  have hplace := Coordinate.addressable_origin
  have hnext : Coordinate.origin.successor = some (Coordinate.origin.next .scroll) := rfl
  have hroom := Coordinate.room_some hplace
  rw [hnext, Coordinate.room_some (hplace.next .scroll)] at hroom
  have hcount : Coordinate.room (some .origin) =
    {c : Coordinate | c.Addressable ∧ ¬ c < .origin}.ncard := rfl
  omega

/-- At the last coordinate there is not. -/
theorem ncard_last_lt_two : {c : Coordinate | c.Addressable ∧ ¬ c < .last}.ncard < 2 := by
  have hroom := Coordinate.room_some Coordinate.addressable_last
  rw [Coordinate.successor_last] at hroom
  have hcount : Coordinate.room (some .last) =
    {c : Coordinate | c.Addressable ∧ ¬ c < .last}.ncard := rfl
  have hnone : Coordinate.room none = 0 := rfl
  omega

/-- Two files of the directory are placed from the origin on, and none from the
last coordinate on. -/
theorem slurp_all_or_nothing_cabinet :
    newHome.catalog.InOrder cabinet ∧
      cabinet.files.list cabinet.cwd "d" = .ok ["a", "b", "c"] ∧
      (∃ s' r w', (newHome.call (.slurp none none "d")).perform cabinet = (.ok (s', r), w') ∧
        r.scrolls.length = 2 ∧ r.scrolls.head? = some ⟨.origin, ['a']⟩ ∧
        ∃ texts, s'.catalog.ledger w' = (newHome.catalog.ledger cabinet).set
            (newHome.settings.resolveLabel none) (some ⟨.origin, texts⟩) ∧
          texts .origin = some ['x']) ∧
      ∃ name w', (newHome.call (.slurp none (some Coordinate.last.address) "d")).perform cabinet =
          (.error (.noPlaceLeft name), w') ∧
        w'.files = cabinet.files ∧ newHome.view w' = newHome.view cabinet := by
  have hlist : cabinet.files.list cabinet.cwd "d" = .ok ["a", "b", "c"] := rfl
  have hblank : ((newHome.catalog.ledger cabinet).begun (newHome.settings.resolveLabel none)).target
      none = .origin := by decide +kernel
  have hlast : ((newHome.catalog.ledger cabinet).begun (newHome.settings.resolveLabel none)).target
      (some Coordinate.last.address) = .last :=
    Coordinate.ofAddress_address Coordinate.addressable_last
  obtain ⟨hplaces, -⟩ := slurp_all_or_nothing inOrder_cabinet hlist hblank
    Coordinate.addressable_origin plainFiles_cabinet
  obtain ⟨-, hrefused⟩ := slurp_all_or_nothing inOrder_cabinet hlist hlast
    Coordinate.addressable_last plainFiles_cabinet
  obtain ⟨s', w', places, texts, hrun, hlength, hsteps, -, hledger, hthere, -⟩ :=
    hplaces two_le_ncard_origin
  obtain ⟨c, e, rfl⟩ := List.length_eq_two.mp hlength
  have hfirst : some Coordinate.origin = some c := hsteps 0 Nat.zero_lt_two
  cases hfirst
  exact ⟨inOrder_cabinet, hlist,
    ⟨s', _, w', hrun, rfl, rfl, texts, hledger, hthere (.origin, ("a", ['x'])) List.mem_cons_self⟩,
    hrefused ncard_last_lt_two⟩

end Session

end Ninefold
