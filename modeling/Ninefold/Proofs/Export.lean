import Mathlib
import Ninefold.Proofs.Addressing
import Ninefold.Proofs.Place
import Ninefold.Proofs.Written

/-!
# Exported scrolls

A document is exported as one JSON object, with a member for each of its
scrolls: the text under the address. Members come as the scrolls are listed, and
as no two addresses are alike, no member hides another. So the export tells all
that the document holds. Whoever reads the keys as addresses gets the scrolls
back, and with them the normalized text, as long as an address can name where
each of them lies.
-/

namespace Ninefold

/-! ## Scrolls as members of an object -/

namespace Scroll

/-- The member that a scroll is exported as. -/
def member (s : Scroll) : Option Text × Json :=
  (some (Text.ofString s.place.address), .string (some s.text))

/-- The scroll that a member tells of, its key read as an address. -/
def ofMember? : Option Text × Json → Option Scroll
  | (some key, .string (some t)) => some ⟨.ofAddress key.asString, t⟩
  | _ => none

/-- A scroll as its member tells of it. -/
def asWritten (s : Scroll) : Scroll := { s with place := s.place.asWritten }

theorem place_asWritten (s : Scroll) : s.asWritten.place = s.place.asWritten := by rw [asWritten]

theorem text_asWritten (s : Scroll) : s.asWritten.text = s.text := by rw [asWritten]

theorem asWritten_of_addressable {s : Scroll} (h : s.place.Addressable) : s.asWritten = s := by
  rw [asWritten, Coordinate.asWritten_of_addressable h]

theorem ofMember?_member (s : Scroll) : ofMember? s.member = some s.asWritten := by
  rw [member, ofMember?, Text.asString_ofString]
  rfl

/-- Scrolls at different coordinates have members of different keys. -/
theorem nodup_keys_members {ss : List Scroll} (h : ss.Pairwise fun a b => a.place < b.place) :
    ((ss.map member).map Prod.fst).Nodup := by
  rw [List.map_map, List.Nodup, List.pairwise_map]
  refine h.imp ?_
  intro a b hlt hkeys
  have htexts : Text.ofString a.place.address = Text.ofString b.place.address :=
    Option.some_inj.mp hkeys
  have haddresses : a.place.address = b.place.address := by
    rw [← Text.asString_ofString a.place.address, htexts, Text.asString_ofString]
  exact KeyOrder.ne_of_lt hlt (Coordinate.address_injective haddresses)

end Scroll

namespace Json

/-- The scrolls that an exported object tells of. -/
def scrolls : Json → List Scroll
  | .object members => members.filterMap Scroll.ofMember?
  | _ => []

theorem scrolls_object_members (ss : List Scroll) :
    (object (ss.map Scroll.member)).scrolls = ss.map Scroll.asWritten := by
  have hmembers : Scroll.ofMember? ∘ Scroll.member = some ∘ Scroll.asWritten :=
    funext Scroll.ofMember?_member
  rw [scrolls, List.filterMap_map, hmembers, ← List.filterMap_eq_map]

end Json

/-! ## Documents told by their scrolls -/

namespace Document

variable {doc : Document}

/-- The export of a document is read as one member for each of its cells. -/
theorem parse_scrollsDraft (doc : Document) :
    Json.parse (Session.scrollsDraft doc).pretty =
      (.object (doc.cells.scrolls.map Scroll.member), true) := by
  rw [Json.Draft.parse_pretty, Session.scrollsDraft, Json.Draft.tree,
    Json.Draft.treeMembers_eq_map, Cells.scrolls, List.map_map, List.map_map]
  rfl

/-- Scrolls hold no delimiter, wherever they are said to lie. -/
theorem plain_ofScrolls_asWritten (doc : Document) :
    (Cells.ofScrolls (doc.scrolls.map Scroll.asWritten)).Plain doc.delimiters := by
  intro c t hget
  obtain ⟨s, hs, heq⟩ := List.mem_map.mp (Cells.mem_of_get?_ofScrolls hget)
  have htext := congrArg Scroll.text heq
  rw [Scroll.text_asWritten] at htext
  have hfree := Segments.firstReserved?_of_mem_all (List.mem_filter.mp hs).1
  rwa [htext] at hfree

/-- The scrolls of a document give its normalized text exactly if the addresses
that they are written with name where they lie. -/
theorem weave_asWritten_iff (h : doc.segments.Ascending) :
    weave doc.delimiters (.ofScrolls (doc.scrolls.map Scroll.asWritten)) = doc.normalize.raw ↔
      ∀ s ∈ doc.scrolls, s.place.Addressable := by
  constructor
  · intro hsame s hs
    have hcut : Segments.ofText doc.delimiters doc.normalize.raw = doc.normalize.segments := by
      rw [segments, delimiters_normalize]
    -- the scrolls of the text that was woven are scrolls as written
    have hread : (Cells.ofScrolls (doc.scrolls.map Scroll.asWritten)).scrolls.filter
        Scroll.written = doc.scrolls := by
      rw [← scrolls_ofText_weave doc.plain_ofScrolls_asWritten, hsame, hcut]
      exact scrolls_normalize h
    rw [← hread] at hs
    have hget := Cells.mem_scrolls_iff.mp (List.mem_filter.mp hs).1
    obtain ⟨told, _, heq⟩ := List.mem_map.mp (Cells.mem_of_get?_ofScrolls hget)
    have hplace := congrArg Scroll.place heq
    rw [Scroll.place_asWritten] at hplace
    rw [← hplace]
    exact Coordinate.addressable_ofAddress _
  · intro hnamed
    have hlisted : doc.scrolls.map Scroll.asWritten = doc.scrolls :=
      (List.map_congr_left fun s hs => Scroll.asWritten_of_addressable (hnamed s hs)).trans
        (List.map_id _)
    have hcells : doc.cells = .ofScrolls doc.scrolls := rfl
    rw [hlisted, normalize, raw_ofCells, hcells]

end Document

/-! ## The export of a session -/

namespace Session

variable {s : Session} {label : Option String} {w : World} {doc : Stored}

/-- What is exported of a document that is there is given back. -/
theorem perform_exportJson_none (h : ((s.fetch label).perform w).1 = .ok doc) :
    ∃ w', (s.exportJson label none).perform w =
      (.ok (s, { Reply.empty with raw := some (scrollsDraft doc.document).pretty }), w') := by
  obtain ⟨w₁, hfetch⟩ := Act.exists_perform_eq h
  rw [exportJson, Act.perform_bind_ok hfetch]
  exact ⟨_, Act.perform_bind_ok (perform_noteReading ..) _⟩

/-- Or it is written to a file, where it is found afterwards. -/
theorem perform_exportJson_some {path : String} {files : FileTree}
    (h : ((s.fetch label).perform w).1 = .ok doc)
    (hwrite : w.files.write w.cwd path (scrollsDraft doc.document).pretty.bytes = .ok files) :
    ∃ w', (s.exportJson label (some path)).perform w =
        (.ok (s, wrote (scrollsDraft doc.document).pretty path), w') ∧
      w'.source path = .ok (scrollsDraft doc.document).pretty := by
  obtain ⟨w₁, hfetch⟩ := Act.exists_perform_eq h
  have hsame : w.SameFiles w₁ := .of_quiet ⟨rfl, rfl⟩ (s.catalog.quiet_fetch _) hfetch
  have hnoted := perform_noteReading doc.document 1 w₁
  have hsame' := hsame.noted (.replicate 1 doc.document.readingNote)
  generalize w₁.noted (.replicate 1 doc.document.readingNote) = w₂ at hnoted hsame'
  rw [← hsame'.files, ← hsame'.cwd] at hwrite
  rw [exportJson, Act.perform_bind_ok hfetch, Act.perform_bind_ok hnoted]
  refine ⟨{ w₂ with files }, Act.perform_bind_ok (Act.perform_writeText hwrite) _, ?_⟩
  rw [World.source, FileTree.read_of_write hwrite]
  exact Act.decode_bytes _

/-- **An export loses no scroll.** Of a document with fewer characters than an
axis has positions, the exported JSON is an object of the listed scrolls: in
order, each text under its address, and each under an address of its own. It is
given back, or written to a file wherever one can be written. The keys read as
addresses and the cells woven make the normalized text exactly if an address
can name the place of each scroll. -/
theorem exportJson_tells_scrolls (hfetch : ((s.fetch label).perform w).1 = .ok doc)
    (hlength : doc.raw.length < Position.limit) :
    ∃ listed json,
      ((s.list label).perform w).1 = .ok (s, listed) ∧
      ((s.exportJson label none).perform w).1 =
        .ok (s, { Reply.empty with raw := some json }) ∧
      (∀ path files, w.files.write w.cwd path json.bytes = .ok files →
        ∃ w', (s.exportJson label (some path)).perform w = (.ok (s, wrote json path), w') ∧
          w'.source path = .ok json) ∧
      Json.parse json = (.object (listed.scrolls.map Scroll.member), true) ∧
      listed.scrolls.Pairwise (fun a b => a.place < b.place) ∧
      ((listed.scrolls.map Scroll.member).map Prod.fst).Nodup ∧
      (weave .standard (.ofScrolls (Json.parse json).1.scrolls) = doc.document.normalize.raw ↔
        ∀ scroll ∈ listed.scrolls, scroll.place.Addressable) := by
  obtain ⟨listed, w₁, hlist, hscrolls⟩ := perform_list hfetch
  obtain ⟨w₂, hexport⟩ := perform_exportJson_none hfetch
  have hascending : doc.document.segments.Ascending := Segments.ascending_of_length hlength
  have hcells : doc.document.cells.scrolls = doc.document.scrolls := hascending.scrolls_cells
  have hparse : Json.parse (scrollsDraft doc.document).pretty =
      (.object (listed.scrolls.map Scroll.member), true) := by
    rw [Document.parse_scrollsDraft, hcells, hscrolls]
  have hsorted : listed.scrolls.Pairwise (fun a b => a.place < b.place) := by
    rw [hscrolls]
    exact hascending.pairwise_scrolls
  refine ⟨listed, (scrollsDraft doc.document).pretty, congrArg Prod.fst hlist,
    congrArg Prod.fst hexport, fun path files => perform_exportJson_some hfetch, hparse, hsorted,
    Scroll.nodup_keys_members hsorted, ?_⟩
  have hdelimiters : doc.document.delimiters = .standard := rfl
  rw [hparse, Json.scrolls_object_members, hscrolls, ← hdelimiters]
  exact Document.weave_asWritten_iff hascending

/-- Two letters, the second in the tenth scroll of the first section. -/
def ninthAndTenth : Text := List.replicate 8 '\x17' ++ ['a', '\x17', 'b']

/-- The ninth scroll is told before the tenth, though its address comes behind
as a text, and both are read back. -/
theorem exportJson_tells_scrolls_ninthAndTenth :
    (((book ninthAndTenth).fetch none).perform (bookWorld ninthAndTenth)).1 =
        .ok (importedDoc ninthAndTenth) ∧
      (importedDoc ninthAndTenth).raw.length < Position.limit ∧
      ∃ json,
        (((book ninthAndTenth).exportJson none none).perform (bookWorld ninthAndTenth)).1 =
          .ok (book ninthAndTenth, { Reply.empty with raw := some json }) ∧
        (∃ w', ((book ninthAndTenth).exportJson none (some "f")).perform
            (bookWorld ninthAndTenth) = (.ok (book ninthAndTenth, wrote json "f"), w') ∧
          w'.source "f" = .ok json) ∧
        Json.parse json = (.object
          [(some (Text.ofString "1.1.1/1.1.1/1.1.9"), .string (some ['a'])),
            (some (Text.ofString "1.1.1/1.1.1/1.1.10"), .string (some ['b']))], true) ∧
        weave .standard (.ofScrolls (Json.parse json).1.scrolls) = ninthAndTenth := by
  have hfetch := fetch_book ninthAndTenth (bookWorld ninthAndTenth)
  have hlength : (importedDoc ninthAndTenth).raw.length < Position.limit := by decide
  obtain ⟨listed, json, hlist, hexport, hfile, hparse, _, _, hback⟩ :=
    exportJson_tells_scrolls hfetch hlength
  obtain ⟨shown, w₁, hlist', hscrolls⟩ := perform_list hfetch
  have hshown : listed = shown := by
    rw [hlist'] at hlist
    cases hlist
    rfl
  have htold : listed.scrolls =
      [⟨.ofAddress "1.1.1/1.1.1/1.1.9", ['a']⟩, ⟨.ofAddress "1.1.1/1.1.1/1.1.10", ['b']⟩] := by
    rw [hshown, hscrolls]
    decide
  have hnamed : ∀ scroll ∈ listed.scrolls, scroll.place.Addressable := by
    rw [htold]
    intro scroll hscroll
    rcases List.mem_cons.mp hscroll with rfl | hscroll
    · exact Coordinate.addressable_ofAddress _
    · rw [List.mem_singleton.mp hscroll]
      exact Coordinate.addressable_ofAddress _
  have hnormal : (importedDoc ninthAndTenth).document.normalize.raw = ninthAndTenth := by decide
  refine ⟨hfetch, hlength, json, hexport, hfile "f" _ rfl, ?_, (hback.mpr hnamed).trans hnormal⟩
  rw [hparse, htold]
  rfl

end Session

end Ninefold
