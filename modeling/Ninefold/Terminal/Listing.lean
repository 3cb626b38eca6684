import Ninefold.Reply
import Ninefold.Terminal.Style
import Ninefold.Text.Preview

/-!
# Printing replies

How each part of a reply looks on a terminal: one line for each message,
scroll, heading or document.
-/

namespace Ninefold.Terminal

/-- A line of its own. -/
def line (s : String) : String := s ++ "\n"

/-- The style of a message. -/
def toneStyle : Tone → Style
  | .info => .dim
  | .success => .green
  | .warning => .yellow

/-- Messages, one on a line. -/
def showMessages (colours : Bool) (ms : List Message) : String :=
  String.join (ms.map fun m => line ((toneStyle m.tone).apply colours m.text))

/-- The preview of a text within a width. -/
def shown (t : Text) (width : Nat) : String := Text.asString (t.preview width)

/-- An address as it is printed. -/
def showPlace (colours : Bool) (c : Coordinate) : String := Style.yellow.apply colours c.address

/-- Scrolls with previews of their texts. -/
def showScrolls (colours : Bool) (width : Nat) (ss : List Scroll) : String :=
  String.join (ss.map fun s => line (showPlace colours s.place ++ " " ++ shown s.text width))

/-- Headings with the sizes of their scrolls. -/
def showContents (colours : Bool) (width : Nat) (hs : List Heading) : String :=
  String.join (hs.map fun h =>
    let noun := if h.lines = 1 then "line" else "lines"
    let size := "(" ++ toString h.lines ++ " " ++ noun ++ ", " ++ toString h.bytes ++ " bytes)"
    line (showPlace colours h.place ++ " " ++ shown h.title width ++ " " ++
      Style.dim.apply colours size))

/-- The units of a stretch of time in seconds, the largest first. -/
def timeUnits : List (String × Nat) :=
  [("year", 31557600), ("month", 2629800), ("week", 604800), ("day", 86400), ("hour", 3600),
   ("minute", 60), ("second", 1)]

/-- A number of seconds in its largest whole unit. -/
def ago (seconds : Nat) : String :=
  match timeUnits.find? fun (_, length) => length ≤ seconds with
  | none => "now"
  | some (name, length) =>
    let n := seconds / length
    toString n ++ " " ++ name ++ (if n = 1 then "" else "s") ++ " ago"

/-- The seconds from one instant to another, none if the other is earlier. -/
def secondsBetween (first second : Instant) : Nat :=
  ((second.minute - first.minute) * 60 + second.second - first.second).toNat

/-- Documents with their labels in one column. -/
def showRecords (colours : Bool) (now : Instant) (rs : List Record) : String :=
  if rs.isEmpty then line "No phexts found."
  else
    let width (r : Record) : Nat := Text.columns (Text.ofString r.label)
    let widest := (rs.map width).foldl max 0
    String.join (rs.map fun r =>
      line (Style.bold.apply colours r.label ++ "".pushn ' ' (widest - width r) ++ "  " ++
        showPlace colours r.coordinate ++ "  " ++
        Style.dim.apply colours ("updated " ++ ago (secondsBetween r.updatedAt now))))

/-- Settings, all with their names or one without. -/
def showSettings (s : Settings) (key : Option String) : String :=
  match key with
  | none =>
    line ("default-label = " ++ s.defaultLabel) ++
      line ("preview-width = " ++ toString s.previewWidth)
  | some "default-label" => line s.defaultLabel
  | some "preview-width" => line (toString s.previewWidth)
  | some _ => ""

end Ninefold.Terminal
