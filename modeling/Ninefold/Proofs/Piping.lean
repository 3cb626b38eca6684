import Mathlib
import Ninefold.Proofs.Addressing
import Ninefold.Proofs.Edits
import Ninefold.Proofs.Keeping
import Ninefold.Proofs.LineEnd
import Ninefold.Proofs.Unchanged
import Ninefold.Terminal.Program

/-!
# A scroll printed and read back

What is selected at an address is printed with a line feed behind it, and an
update takes a text from its input without the last line end. So the text that
goes into the document is the one that was found there, unless it ends in a
carriage return. To write a cell over with its own text normalizes the
document, which keeps the listing if that ascends.
-/

namespace Ninefold

/-! ## Writing over -/

namespace Document

variable {doc : Document} {c : Coordinate} {t : Text}

/-- What is selected at an addressable coordinate, be the document ascending or
not, is what its cells hold there. -/
theorem getD_get?_of_select (hc : c.Addressable) (hselect : doc.select c = some t) :
    (doc.cells.get? c).getD [] = t := by
  have hmem : ⟨c, t⟩ ∈ doc.segments.all := Segments.mem_all_of_text? hselect
  cases hget : doc.cells.get? c with
  | some u =>
    have hcell : ⟨c, u⟩ ∈ doc.segments.all :=
      (List.mem_filter.mp (Segments.mem_scrolls_of_get? hget)).1
    have hfound : doc.select c = some u := Segments.text?_of_addressable hcell hc
    exact Option.some.inj (hfound.symm.trans hselect)
  | none =>
    -- a segment with text would have its cell
    cases t with
    | nil => rfl
    | cons ch t =>
      have hscroll : (⟨c, ch :: t⟩ : Scroll) ∈ doc.segments.scrolls :=
        List.mem_filter.mpr ⟨hmem, rfl⟩
      have hsome := Cells.isSome_get?_ofScrolls doc.segments.scrolls c
      have hany : doc.segments.scrolls.any (·.place = c) = true :=
        List.any_eq_true.mpr ⟨_, hscroll, by simp⟩
      have hcells : (Cells.ofScrolls doc.segments.scrolls).get? c = none := hget
      rw [hcells, hany] at hsome
      cases hsome

/-- A text that was found, less its line end, holds no delimiter either. -/
theorem firstReserved?_of_select (hc : c.Addressable) (hselect : doc.select c = some t) :
    doc.delimiters.firstReserved? (t ++ ['\n']).dropLineEnd = none := by
  have hplain : doc.delimiters.firstReserved? t = none :=
    getD_get?_of_select hc hselect ▸ firstReserved?_cell doc c
  rw [Delimiters.firstReserved?, List.find?_eq_none] at hplain ⊢
  exact fun ch hch => hplain ch ((Text.dropLineEnd_lineFeed_prefix t).subset hch)

/-- What is listed once a text is written over a cell. -/
theorem scrolls_write (hplain : doc.delimiters.firstReserved? t = none) :
    (doc.write c t).scrolls = (doc.cells.write c t).scrolls :=
  scrolls_ofCells (doc.plain_cells.write hplain) doc.full_cells.write

/-- To write over a cell what was found there, printed and read back, keeps the
listing exactly if the listing ascends and the text does not end in a carriage
return. -/
theorem scrolls_write_printed_iff (hc : c.Addressable) (hselect : doc.select c = some t) :
    (doc.write c (t ++ ['\n']).dropLineEnd).scrolls = doc.scrolls ↔
      t.getLast? ≠ some '\r' ∧ doc.scrolls.Pairwise fun a b => a.place < b.place := by
  have hcell := getD_get?_of_select hc hselect
  rw [scrolls_write (firstReserved?_of_select hc hselect)]
  constructor
  · intro hsame
    refine ⟨?_, hsame ▸ Cells.pairwise_scrolls _⟩
    -- the text is listed before, so it is what has been written
    intro hreturn
    have hget : doc.cells.get? c = some t := by
      cases hget : doc.cells.get? c with
      | none =>
        rw [hget] at hcell
        rw [← hcell] at hreturn
        cases hreturn
      | some u => exact congrArg some (by rwa [hget] at hcell)
    have hlisted : (⟨c, t⟩ : Scroll) ∈ doc.scrolls := Segments.mem_scrolls_of_get? hget
    rw [← hsame, Cells.mem_scrolls_iff] at hlisted
    rw [Cells.get?_write, if_pos rfl] at hlisted
    have hwritten : (t ++ ['\n']).dropLineEnd = t := by grind
    exact Text.dropLineEnd_lineFeed_eq_iff.mp hwritten hreturn
  · rintro ⟨hreturn, hascend⟩
    rw [Text.dropLineEnd_lineFeed hreturn, ← hcell, doc.full_cells.write_self]
    exact Segments.scrolls_cells_eq_iff.mpr hascend

end Document

/-! ## Updating a stored document -/

/-- The document after an update: a text is written at a coordinate, where the
document then stands. -/
def Stored.updated (doc : Stored) (c : Coordinate) (t : Text) (now : Instant) : Stored :=
  (doc.withText (doc.document.write c t).raw now).moveTo c

theorem Stored.raw_updated (doc : Stored) (c : Coordinate) (t : Text) (now : Instant) :
    (doc.updated c t now).raw = (doc.document.write c t).raw := by
  have hraw (old : Stored) (raw : Text) : ((old.withText raw now).moveTo c).raw = raw := rfl
  rw [updated, hraw]

theorem Stored.document_updated (doc : Stored) (c : Coordinate) (t : Text) (now : Instant) :
    (doc.updated c t now).document = doc.document.write c t := by
  have hmoved (old : Stored) : (old.moveTo c).document = old.document := rfl
  rw [Stored.updated, hmoved, Stored.document_withText_write]

namespace Disk

variable {root : String} {p : Place} {m : Memory} {w : World} {s : Session}
  {label : Option String} {doc : Stored}

/-- What a session fetches from a store is a document of the catalog that the
store stands for, as it was written. -/
theorem Stands.fetch_eq_ok_iff (h : Stands ⟨root, w.cwd, p⟩ w m)
    (hcatalog : s.catalog = .disk root) :
    ((s.fetch label).perform w).1 = .ok doc ↔
      (m.fetch? (s.settings.resolveLabel label)).map Stored.asWritten = some doc := by
  have hfetch : ((s.catalog.fetch? (s.settings.resolveLabel label)).perform w).1 =
      .ok ((m.fetch? (s.settings.resolveLabel label)).map Stored.asWritten) :=
    hcatalog ▸ h.fetch? _
  rw [Session.fetch, Catalog.fetch, Act.perform_bind, hfetch]
  cases m.fetch? (s.settings.resolveLabel label) with
  | none => constructor <;> (intro hnone; cases hnone)
  | some old =>
    show Except.ok old.asWritten = Except.ok doc ↔ some old.asWritten = some doc
    rw [Except.ok.injEq, Option.some_inj]

/-- A document of the catalog is fetched for an edit, and can be taken back with
another text and at another coordinate. -/
theorem Stands.perform_fetchOrStart (h : Stands ⟨root, w.cwd, p⟩ w m)
    (hcatalog : s.catalog = .disk root) (hfetch : ((s.fetch label).perform w).1 = .ok doc) :
    ∃ ns, (s.fetchOrStart label).perform w = (.ok doc, w.noted ns) ∧
      doc.record.label = s.settings.resolveLabel label ∧ doc.record.Kept ∧ m.Free doc := by
  obtain ⟨old, hold, rfl⟩ := Option.map_eq_some_iff.mp ((h.fetch_eq_ok_iff hcatalog).mp hfetch)
  obtain ⟨ns, hlook⟩ := Act.exists_perform_eq_noted
    (Disk.asksOnly_fetch? root (s.settings.resolveLabel label)) w
  have hfound : (s.catalog.fetch? (s.settings.resolveLabel label)).perform w =
      (.ok (some old.asWritten), w.noted ns) := by
    rw [hcatalog]
    have hresult := h.fetch? (s.settings.resolveLabel label)
    rw [hold, Option.map_some] at hresult
    exact hlook.trans (Prod.ext hresult rfl)
  have hlabel : old.asWritten.record.label = s.settings.resolveLabel label :=
    (Record.label_asWritten old.record).trans (h.filed.label hold)
  refine ⟨ns, Act.perform_bind_ok hfound _, hlabel, (h.filed.kept hold).asWritten, ?_⟩
  intro label' other hother hsame
  rw [hlabel]
  exact h.filed.apart hother hold (hsame.trans (Record.id_asWritten old.record))

/-- What was saved is fetched, if it stands where an address can name it. -/
theorem Stands.fetch_save (h : Stands ⟨root, w.cwd, p⟩ w (m.save doc))
    (hcatalog : s.catalog = .disk root) (hlabel : doc.record.label = s.settings.resolveLabel label)
    (hplace : doc.record.coordinate.Addressable) : ((s.fetch label).perform w).1 = .ok doc := by
  rw [h.fetch_eq_ok_iff hcatalog, Memory.fetch?_save, if_pos hlabel.symm, Option.map_some,
    Stored.asWritten_of_addressable hplace]

/-- An update of a document that a store has is kept there. -/
theorem Stands.perform_update (h : Stands ⟨root, w.cwd, p⟩ w m) (hclock : w.clock.Kept)
    (hcatalog : s.catalog = .disk root) (hfetch : ((s.fetch label).perform w).1 = .ok doc)
    (address : String) {t : Text} (hplain : Delimiters.standard.firstReserved? t = none) :
    ∃ w', (s.update .ordinary label (some address) t).perform w = (.ok (s, .success
        ("Updated " ++ t.inBytes ++ " at " ++ (Coordinate.ofAddress address).address)), w') ∧
      Stands ⟨root, w.cwd, p⟩ w' (m.save (doc.updated (.ofAddress address) t w.clock)) ∧
      ((s.fetch label).perform w').1 = .ok (doc.updated (.ofAddress address) t w.clock) := by
  obtain ⟨ns, hrequest⟩ := exists_perform_requested (some address) w
  have hnoted : w.SameFiles (w.noted ns) := ⟨rfl, rfl⟩
  have hstands : Stands ⟨root, w.cwd, p⟩ (w.noted ns) m := h.of_files rfl rfl
  obtain ⟨ns', hstart, hlabel, hkept, hfree⟩ := hstands.perform_fetchOrStart hcatalog
    (Session.fetch_of_sameFiles hnoted hfetch)
  have hedit : (Act.edited (doc.document.replace (.ofAddress address) t)).perform
      ((w.noted ns).noted ns') =
        (.ok (doc.document.write (.ofAddress address) t), (w.noted ns).noted ns') := by
    rw [perform_edited, Document.replace_eq hplain]
    rfl
  have hready : Stands ⟨root, w.cwd, p⟩
      (((w.noted ns).noted ns').noted (.replicate 1 doc.document.readingNote)) m :=
    h.of_files rfl rfl
  have hkept' : (doc.updated (.ofAddress address) t w.clock).record.Kept := ⟨hkept.1, hclock⟩
  obtain ⟨⟨w', hsave, hafter, -⟩, -⟩ := hready.save hkept' hfree
  have hsession : (s.save (doc.updated (.ofAddress address) t w.clock)).perform
      (((w.noted ns).noted ns').noted (.replicate 1 doc.document.readingNote)) = (.ok s, w') := by
    obtain ⟨catalog, directory, settings⟩ := s
    cases hcatalog
    exact Act.perform_bind_ok (Act.perform_bind_ok hsave _) _
  have hafter' : Stands ⟨root, w'.cwd, p⟩ w'
      (m.save (doc.updated (.ofAddress address) t w.clock)) := hafter.cwd ▸ hafter
  refine ⟨w', ?_, hafter,
    hafter'.fetch_save hcatalog hlabel (Coordinate.addressable_ofAddress address)⟩
  rw [Session.update, Act.perform_bind_ok hrequest, Act.perform_bind_ok hstart]
  refine (Act.perform_bind_ok hedit _).trans ?_
  rw [Act.perform_bind_ok (perform_noteReading ..), Act.perform_bind_ok (Act.perform_send .now _)]
  exact Act.perform_bind_ok hsession _

end Disk

/-! ## Commands -/

namespace Session

variable {s : Session} {label : Option String} {w : World} {doc : Stored} {t : Text}

/-- A text that is found is answered without a word. -/
theorem perform_select_found (hfetch : ((s.fetch label).perform w).1 = .ok doc) (address : String)
    (hselect : doc.document.select (.ofAddress address) = some t) :
    ∃ w', (s.select label (some address)).perform w =
        (.ok (s, { Reply.empty with selected := some ⟨.ofAddress address, some t⟩ }), w') ∧
      w.SameFiles w' := by
  obtain ⟨ns, hrequest⟩ := exists_perform_requested (some address) w
  have hnoted : w.SameFiles (w.noted ns) := ⟨rfl, rfl⟩
  obtain ⟨w₁, hfound⟩ := Act.exists_perform_eq (fetch_of_sameFiles hnoted hfetch)
  have htext : doc.document.select (doc.target (some (.ofAddress address))) = some t := hselect
  have hrun : (s.select label (some address)).perform w =
      (.ok (s, { Reply.empty with selected := some ⟨.ofAddress address, some t⟩ }),
        w₁.noted [doc.document.readingNote]) := by
    rw [select, Act.perform_bind_ok hrequest, Act.perform_bind_ok hfound]
    refine (Act.perform_bind_ok (perform_noteReading doc.document 1 w₁) _).trans ?_
    rw [Option.map_some, htext]
    rfl
  exact ⟨_, hrun, World.SameFiles.of_quiet ⟨rfl, rfl⟩ (quiet_select s label _) hrun⟩

end Session

namespace Terminal

variable {w : World} {t : Text}

theorem line_asString (t : Text) : line (Text.asString t) = Text.asString (t ++ ['\n']) := by
  rw [line, Text.asString, Text.asString, String.ofList_append]

/-- What was printed with a line feed behind it is taken without its line
end. -/
theorem perform_givenText_nil (h : w.input = (line (Text.asString t)).toUTF8) :
    (givenText []).perform w = (.ok (t ++ ['\n']).dropLineEnd, { w with input := .empty }) := by
  have hdecode : Act.decode (.ok w.input) = .ok (t ++ ['\n']) := by
    rw [h, line_asString]
    exact Act.decode_bytes _
  have htaken : (Act.send .input).perform w = (.ok w.input, { w with input := .empty }) := rfl
  rw [givenText, if_pos List.isEmpty_nil, Act.perform_bind_ok htaken, hdecode]
  cases t <;> rfl

variable (env : Environment) {s : Session} {label : Option String} {address : String}

/-- A text that is found is printed with a line feed behind it. -/
theorem perform_carryOut_select {doc : Stored} (hfetch : ((s.fetch label).perform w).1 = .ok doc)
    (hselect : doc.document.select (.ofAddress address) = some t) :
    ∃ w', (carryOut env s label (.select (some address))).perform w =
      (.ok (line (Text.asString t)), w') ∧ w.SameFiles w' ∧ w'.clock = w.clock := by
  obtain ⟨w', hrun, hsame⟩ := Session.perform_select_found hfetch address hselect
  have hclock := Act.clock_perform (s.select label (some address)) w
  rw [hrun] at hclock
  refine ⟨w', ?_, hsame, hclock⟩
  refine (Act.perform_bind_ok (a := s.call (.select label (some address))) hrun _).trans ?_
  show (Except.ok (line (Text.asString t) ++ ""), w') = _
  rw [String.append_empty]

/-- An update without words takes what was printed of a text with a line feed
behind it, and writes it without its line end. -/
theorem perform_carryOut_update (address : String) {root : String} {p : Place} {m : Memory}
    {doc : Stored}
    (h : Disk.Stands ⟨root, w.cwd, p⟩ w m) (hclock : w.clock.Kept)
    (hcatalog : s.catalog = .disk root) (hfetch : ((s.fetch label).perform w).1 = .ok doc)
    (hinput : w.input = (line (Text.asString t)).toUTF8)
    (hplain : Delimiters.standard.firstReserved? (t ++ ['\n']).dropLineEnd = none) :
    ∃ message w', (carryOut env s label (.update (some address) [])).perform w =
        (.ok message, w') ∧
      ((s.fetch label).perform w').1 =
        .ok (doc.updated (.ofAddress address) (t ++ ['\n']).dropLineEnd w.clock) := by
  have hgiven := perform_givenText_nil hinput
  have hstands : Disk.Stands ⟨root, w.cwd, p⟩ { w with input := .empty } m := h.of_files rfl rfl
  have hsame : w.SameFiles { w with input := .empty } := ⟨rfl, rfl⟩
  have hfetch' : ((s.fetch label).perform { w with input := .empty }).1 = .ok doc :=
    Session.fetch_of_sameFiles hsame hfetch
  have hclock' : ({ w with input := .empty } : World).clock.Kept := hclock
  obtain ⟨w', hrun, -, hafter⟩ := hstands.perform_update hclock' hcatalog hfetch' address hplain
  have hcalled : (s.call (.update label (some address) (t ++ ['\n']).dropLineEnd)).perform
      { w with input := .empty } = _ := hrun
  have hshown := Act.perform_bind_ok hcalled fun x =>
    pure (showMessages (printsColours env) x.2.messages)
  exact ⟨_, w', (Act.perform_bind_ok hgiven _).trans hshown, hafter⟩

/-- The text that is selected at an address of a document in a store, printed
and given to an update at that address, goes into the document. -/
theorem exists_select_update {root : String} {p : Place} {m : Memory} {doc : Stored}
    (h : Disk.Stands ⟨root, w.cwd, p⟩ w m) (hclock : w.clock.Kept)
    (hcatalog : s.catalog = .disk root) (hfetch : ((s.fetch label).perform w).1 = .ok doc)
    (hselect : doc.document.select (.ofAddress address) = some t) :
    ∃ out w₁ message w₂,
      (carryOut env s label (.select (some address))).perform w = (.ok out, w₁) ∧
      (carryOut env s label (.update (some address) [])).perform
        { w₁ with input := out.toUTF8 } = (.ok message, w₂) ∧
      ((s.fetch label).perform w₂).1 =
        .ok (doc.updated (.ofAddress address) (t ++ ['\n']).dropLineEnd w.clock) := by
  have hplain := Document.firstReserved?_of_select (Coordinate.addressable_ofAddress _) hselect
  obtain ⟨w₁, hprint, hsame, hclock₁⟩ := perform_carryOut_select env hfetch hselect
  obtain ⟨wᵢ, hwᵢ⟩ : ∃ wᵢ : World, wᵢ = { w₁ with input := (line (Text.asString t)).toUTF8 } :=
    ⟨_, rfl⟩
  have hcwd : wᵢ.cwd = w.cwd := hwᵢ ▸ hsame.cwd
  have hfiles : wᵢ.files = w.files := hwᵢ ▸ hsame.files
  have hclockᵢ : wᵢ.clock = w.clock := hwᵢ ▸ hclock₁
  have hstands : Disk.Stands ⟨root, wᵢ.cwd, p⟩ wᵢ m := hcwd.symm ▸ h.of_files hcwd hfiles
  have hfetchᵢ : ((s.fetch label).perform wᵢ).1 = .ok doc :=
    Session.fetch_of_sameFiles ⟨hfiles, hcwd⟩ hfetch
  obtain ⟨message, w₂, hupdate, hafter⟩ := perform_carryOut_update env address hstands
    (hclockᵢ ▸ hclock) hcatalog hfetchᵢ (hwᵢ ▸ rfl) hplain
  exact ⟨_, w₁, message, w₂, hprint, hwᵢ ▸ hupdate, hclockᵢ ▸ hafter⟩

/-- **A scroll piped back into itself.** The text that is selected at an address
of a document in a store, printed and given to an update at that address, always
goes into the document, and the listing is as it was exactly if the text does
not end in a carriage return and the listing ascends. -/
theorem list_update_selected_iff {root : String} {p : Place} {m : Memory}
    {s₀ s₁ : Session} {r reply : Reply} {w₀ w₁ : World}
    (h : Disk.Stands ⟨root, w.cwd, p⟩ w m) (hclock : w.clock.Kept)
    (hcatalog : s.catalog = .disk root)
    (hlist : (s.list label).perform w = (.ok (s₀, r), w₀))
    (hselect : (s.select label (some address)).perform w = (.ok (s₁, reply), w₁))
    (hfound : reply.selected = some ⟨.ofAddress address, some t⟩) :
    ∃ out w₂ message w₃ r' w₄,
      (carryOut env s label (.select (some address))).perform w = (.ok out, w₂) ∧
      (carryOut env s label (.update (some address) [])).perform
        { w₂ with input := out.toUTF8 } = (.ok message, w₃) ∧
      (s.list label).perform w₃ = (.ok (s, r'), w₄) ∧
      (r'.scrolls = r.scrolls ↔
        t.getLast? ≠ some '\r' ∧ r.scrolls.Pairwise fun a b => a.place < b.place) := by
  obtain ⟨doc, hfetch, hscrolls⟩ := Session.scrolls_of_list hlist
  obtain ⟨answer, w₁', hanswer, hselected⟩ :=
    Session.perform_select_address address hfetch (⟨rfl, rfl⟩ : w.SameFiles w)
  rw [hselect] at hanswer
  cases hanswer
  have htext : doc.document.select (.ofAddress address) = some t := by
    simpa [hfound, eq_comm] using hselected
  obtain ⟨out, w₂, message, w₃, hprint, hupdate, hafter⟩ :=
    exists_select_update env h hclock hcatalog hfetch htext
  obtain ⟨r', w₄, hlist', hscrolls'⟩ := Session.perform_list hafter
  refine ⟨out, w₂, message, w₃, r', w₄, hprint, hupdate, hlist', ?_⟩
  rw [hscrolls', Stored.document_updated, hscrolls]
  exact Document.scrolls_write_printed_iff (Coordinate.addressable_ofAddress _) htext

/-! ### A store of one scroll -/

/-- A document with one scroll, at the origin. -/
def postcard (t : Text) : Stored := (Stored.fresh "holiday" default (.ofNat 0)).withText t default

/-- What is there once that document is saved in a new store. -/
def mailbox (t : Text) : World := (Disk.save "home" (postcard t)).after .bare

theorem mailbox_eq (t : Text) : mailbox t = (Disk.save "home" (postcard t)).after .bare := rfl

-- a world with a store in it is long to compare
attribute [irreducible] mailbox

theorem kept_clock_mailbox (t : Text) : (mailbox t).clock.Kept := by
  have hclock : (mailbox t).clock = World.bare.clock := by
    rw [mailbox_eq, Act.after]
    exact Act.clock_perform (Disk.save "home" (postcard t)) .bare
  rw [hclock]
  exact ⟨by decide, by decide, by decide⟩

theorem stands_mailbox (t : Text) :
    ∃ p, Disk.Stands ⟨"home", (mailbox t).cwd, p⟩ (mailbox t)
      (Memory.save .empty (postcard t)) := by
  have hvacant : Disk.Vacant "home" World.bare.files World.bare.cwd := ⟨rfl, rfl, by decide⟩
  have hkept : (default : Instant).Kept := ⟨by decide, by decide, by decide⟩
  have hfree : Memory.Free .empty (postcard t) := fun h => by cases h
  obtain ⟨p, hstands, -⟩ := hvacant.stands
  obtain ⟨⟨w', hsave, hafter, -⟩, -⟩ := hstands.save ⟨hkept, hkept⟩ hfree
  have hmailbox : mailbox t = w' := by
    rw [mailbox_eq, Act.after, hsave]
  rw [hmailbox, hafter.cwd]
  exact ⟨p, hafter⟩

theorem fetch_mailbox (t : Text) :
    ((Session.newHome.fetch none).perform (mailbox t)).1 = .ok (postcard t) := by
  obtain ⟨p, hstands⟩ := stands_mailbox t
  have hlabel : (postcard t).record.label = Session.newHome.settings.resolveLabel none := rfl
  exact Disk.Stands.fetch_save hstands rfl hlabel Coordinate.addressable_origin

/-- A letter that is piped back is listed as it was. -/
theorem list_update_selected_letter :
    ∃ p s₀ s₁ r reply w₀ w₁,
      Disk.Stands ⟨"home", (mailbox ['a']).cwd, p⟩ (mailbox ['a'])
        (Memory.save .empty (postcard ['a'])) ∧
      (Session.newHome.list none).perform (mailbox ['a']) = (.ok (s₀, r), w₀) ∧
      (Session.newHome.select none (some Coordinate.origin.address)).perform (mailbox ['a']) =
        (.ok (s₁, reply), w₁) ∧
      reply.selected = some ⟨.ofAddress Coordinate.origin.address, some ['a']⟩ ∧
      ∃ out w₂ message w₃ r' w₄,
        (carryOut (fun _ => none) .newHome none (.select (some Coordinate.origin.address))).perform
          (mailbox ['a']) = (.ok out, w₂) ∧
        (carryOut (fun _ => none) .newHome none
          (.update (some Coordinate.origin.address) [])).perform
          { w₂ with input := out.toUTF8 } = (.ok message, w₃) ∧
        (Session.newHome.list none).perform w₃ = (.ok (.newHome, r'), w₄) ∧
        r'.scrolls = r.scrolls := by
  obtain ⟨p, hstands⟩ := stands_mailbox ['a']
  have hfetch := fetch_mailbox ['a']
  have hplace : Coordinate.ofAddress Coordinate.origin.address = .origin :=
    Coordinate.ofAddress_address Coordinate.addressable_origin
  have hscrolls : (postcard ['a']).document.scrolls = [⟨.origin, ['a']⟩] := by decide
  have htext : (postcard ['a']).document.select (.ofAddress Coordinate.origin.address) =
      some ['a'] := by
    rw [hplace]
    decide
  obtain ⟨r, w₀, hlist, hr⟩ := Session.perform_list hfetch
  obtain ⟨w₁, hselect, -⟩ := Session.perform_select_found hfetch _ htext
  obtain ⟨out, w₂, message, w₃, r', w₄, hprint, hupdate, hlist', hiff⟩ :=
    list_update_selected_iff (fun _ => none) hstands (kept_clock_mailbox _) rfl hlist hselect rfl
  refine ⟨p, _, _, r, _, w₀, w₁, hstands, hlist, hselect, rfl,
    out, w₂, message, w₃, r', w₄, hprint, hupdate, hlist', hiff.mpr ⟨by decide, ?_⟩⟩
  rw [hr, hscrolls]
  exact List.pairwise_singleton ..

/-- A carriage return at the end is gone when the scroll is piped back. -/
theorem list_update_selected_return :
    ∃ p s₀ s₁ r reply w₀ w₁,
      Disk.Stands ⟨"home", (mailbox ['a', '\r']).cwd, p⟩ (mailbox ['a', '\r'])
        (Memory.save .empty (postcard ['a', '\r'])) ∧
      (Session.newHome.list none).perform (mailbox ['a', '\r']) = (.ok (s₀, r), w₀) ∧
      (Session.newHome.select none (some Coordinate.origin.address)).perform
        (mailbox ['a', '\r']) = (.ok (s₁, reply), w₁) ∧
      reply.selected = some ⟨.ofAddress Coordinate.origin.address, some ['a', '\r']⟩ ∧
      ∃ out w₂ message w₃ r' w₄,
        (carryOut (fun _ => none) .newHome none (.select (some Coordinate.origin.address))).perform
          (mailbox ['a', '\r']) = (.ok out, w₂) ∧
        (carryOut (fun _ => none) .newHome none
          (.update (some Coordinate.origin.address) [])).perform
          { w₂ with input := out.toUTF8 } = (.ok message, w₃) ∧
        (Session.newHome.list none).perform w₃ = (.ok (.newHome, r'), w₄) ∧
        r.scrolls = [⟨.origin, ['a', '\r']⟩] ∧ r'.scrolls = [⟨.origin, ['a']⟩] := by
  obtain ⟨p, hstands⟩ := stands_mailbox ['a', '\r']
  have hfetch := fetch_mailbox ['a', '\r']
  have hplace : Coordinate.ofAddress Coordinate.origin.address = .origin :=
    Coordinate.ofAddress_address Coordinate.addressable_origin
  have htext : (postcard ['a', '\r']).document.select (.ofAddress Coordinate.origin.address) =
      some ['a', '\r'] := by
    rw [hplace]
    decide
  obtain ⟨r, w₀, hlist, hr⟩ := Session.perform_list hfetch
  obtain ⟨w₁, hselect, -⟩ := Session.perform_select_found hfetch _ htext
  obtain ⟨out, w₂, message, w₃, hprint, hupdate, hafter⟩ :=
    exists_select_update (fun _ => none) hstands (kept_clock_mailbox _) rfl hfetch htext
  obtain ⟨r', w₄, hlist', hr'⟩ := Session.perform_list hafter
  refine ⟨p, _, _, r, _, w₀, w₁, hstands, hlist, hselect, rfl,
    out, w₂, message, w₃, r', w₄, hprint, hupdate, hlist', hr.trans (by decide), ?_⟩
  have hplain : Delimiters.standard.firstReserved? ['a'] = none := by decide
  have hdropped : Text.dropLineEnd (['a', '\r'] ++ ['\n']) = ['a'] := rfl
  rw [hr', Stored.document_updated, hplace, hdropped, Document.scrolls_write hplain]
  decide +kernel

end Terminal

end Ninefold
