import Ninefold.Delimiters
import Ninefold.Scroll

/-!
# Cutting a text into segments

A text is cut at the library delimiter, each piece at the shelf delimiter, and
so on down to the scroll delimiter. One cursor goes along: after each piece of
an axis it advances on that axis. What it shows when a piece of the finest axis
is reached is where that segment lies.

The cursor advances after the last piece of an axis too. The next coarser
advance makes that step good, so no segment is shifted by it; it shows only
where the cursor comes to rest.
-/

namespace Ninefold

/-- A cut text: all its segments in order, the empty ones included, and where
the cursor came to rest. -/
structure Segments where
  all : List Scroll
  cursor : Coordinate
deriving DecidableEq

namespace Segments

/-- The state of a walk over a text: the segments met so far, the latest first,
and the cursor. -/
structure Walk where
  met : List Scroll
  cursor : Coordinate

namespace Walk

/-- The walk before its first segment. -/
def start : Walk := ⟨[], .origin⟩

/-- The walk after a segment at the cursor. -/
def meet (w : Walk) (t : Text) : Walk := { w with met := ⟨w.cursor, t⟩ :: w.met }

/-- The walk after a piece of an axis. -/
def leave (w : Walk) (a : Axis) : Walk := { w with cursor := w.cursor.advance a }

end Walk

/-- The walk over a piece of text that is still to be cut on the axes of a
list, coarsest first. -/
def descend (d : Delimiters) : List Axis → Text → Walk → Walk
  | [], t, w => w.meet t
  | a :: finer, t, w =>
    (t.splitOn (d.char a)).foldl (fun w piece => (descend d finer piece w).leave a) w

/-- A text cut by a delimiter set. The empty text is one empty segment, at
which the cursor stays. -/
def ofText (d : Delimiters) (t : Text) : Segments :=
  if t.isEmpty then ⟨[⟨.origin, []⟩], .origin⟩
  else
    let w := descend d Axis.all t .start
    ⟨w.met.reverse, w.cursor⟩

/-- The segments with text. -/
def scrolls (s : Segments) : List Scroll := s.all.filter Scroll.written

/-- The texts by coordinate. -/
def cells (s : Segments) : Cells := .ofScrolls s.scrolls

/-- The text of the segment at a coordinate: empty where the text has a place
without content, and none where it has no such place. -/
def text? (s : Segments) (c : Coordinate) : Option Text :=
  (s.all.reverse.find? (·.place = c)).map Scroll.text

/-- What there is to remark on the cut of a text. -/
def note (s : Segments) (t : Text) : Note :=
  .partitioned t.byteCount s.scrolls.length s.cursor

end Segments

end Ninefold
