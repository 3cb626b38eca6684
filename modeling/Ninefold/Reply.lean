import Ninefold.Stored
import Ninefold.Settings

/-!
# Replies

What an operation answers, for whoever shows it: words to the user, and the
scrolls, records, texts, paths or settings that were asked for.
-/

namespace Ninefold

/-- How a message is meant. -/
inductive Tone where
  | info
  | success
  | warning
deriving DecidableEq

/-- Words to the user. -/
structure Message where
  tone : Tone
  text : String
deriving DecidableEq

/-- One line of a table of contents: where a scroll lies, its first line, and
how many lines and bytes it has. -/
structure Heading where
  place : Coordinate
  title : Text
  lines : Nat
  bytes : Nat
deriving DecidableEq

/-- The heading of a scroll. -/
def Heading.ofScroll (s : Scroll) : Heading :=
  ⟨s.place, (s.text.takeWhile (· != '\n')) |> Text.trim, Text.lineCount s.text,
    Text.byteCount s.text⟩

/-- The text that an address was found to have; none where there is no such
place. -/
structure Selection where
  place : Coordinate
  text : Option Text
deriving DecidableEq

/-- The answer of an operation. -/
structure Reply where
  messages : List Message
  selected : Option Selection
  scrolls : List Scroll
  records : List Record
  contents : List Heading
  raw : Option Text
  paths : List String
  settings : Option Settings
deriving DecidableEq

namespace Reply

/-- The answer without content. -/
def empty : Reply := ⟨[], none, [], [], [], none, [], none⟩

/-- The answer of one message. -/
def say (tone : Tone) (text : String) : Reply := { empty with messages := [⟨tone, text⟩] }

/-- The answer that something was done. -/
def success (text : String) : Reply := say .success text

/-- The answer that tells something. -/
def info (text : String) : Reply := say .info text

end Reply

end Ninefold
