import Ninefold.Text.Columns.Emoji
import Ninefold.Text.Columns.Widths

/-!
# Columns of a text

A text does not always take as many columns as its characters do one by one.
A selector after a character decides whether it is a picture; joined pictures,
flags and pictures with a skin tone are shown as one; some scripts write two
letters as one. The text is read from its end, so that each character meets
what follows it: `Follow` is all that a character needs to know of that.
-/

namespace Ninefold.Text

/-- What the characters to the right of a place have begun, as far as it bears
on the width of the next one to the left. -/
inductive Begun where
  | nothing
  | lineFeed
  | skinTone
  | indicator
  | indicators
  | picture
  | joinedPicture
  | joinedKeycap
  | joinedIndicator
  | joinedEven
  | joinedOdd
  | tagEnd
  | tagDigits (count : Nat)
  | tagLetters (count : Nat)
  | alef
  | lamed (joined : Bool)
  | ya (joined : Bool)
  | yaVowel
  | tifinagh (joined : Bool)
  | tifinaghJoiner
  | tone
  | orkhonI (joined : Bool)
  | khmer
  | kiratE
  | kiratAi
  | quoteForm
deriving DecidableEq

/-- The selector directly to the right of a place. -/
inductive Selector where
  | none
  | letter
  | picture
deriving DecidableEq

/-- What follows a place in a text. -/
structure Follow where
  begun : Begun
  selector : Selector
deriving DecidableEq

namespace Begun

/-- Whether unseen marks and joiners may stand before it without effect. -/
def bridges : Begun → Bool
  | .lamed _ | .ya _ | .yaVowel | .tifinagh _ | .tifinaghJoiner | .tone | .orkhonI _ | .khmer
  | .kiratE | .kiratAi => true
  | _ => false

/-- Whether a joiner stands to the left of a picture or of a row of them. -/
def joins : Begun → Bool
  | .joinedPicture | .joinedKeycap => true
  | _ => false

/-- What has begun once a joiner stands before it. -/
def joined : Begun → Begun
  | .lamed _ => .lamed true
  | .ya _ => .ya true
  | .tifinagh _ => .tifinagh true
  | .orkhonI _ => .orkhonI true
  | b => b

end Begun

namespace Follow

/-- Nothing that matters follows. -/
def nothing : Follow := ⟨.nothing, .none⟩

/-- No selector, and something begun. -/
def of (b : Begun) : Follow := ⟨b, .none⟩

/-- What follows once a picture selector stands before it: a joined or bridging
beginning stays, any other is cut off. -/
def selectPicture (f : Follow) : Follow :=
  if f.begun.bridges || f.begun.joins || f.begun == .alef then ⟨f.begun, .picture⟩
  else ⟨.nothing, .picture⟩

/-- What follows once a letter selector stands before it. -/
def selectLetter (f : Follow) : Follow :=
  if f.begun.bridges then ⟨f.begun, .letter⟩ else ⟨.nothing, .letter⟩

end Follow

/-- The letters of the Latin alphabet among the tag characters. -/
def isTagLetter (c : Char) : Bool := 0xe0061 ≤ c.toNat && c.toNat ≤ 0xe007a

/-- The digits among the tag characters. -/
def isTagDigit (c : Char) : Bool := 0xe0030 ≤ c.toNat && c.toNat ≤ 0xe0039

/-- The letters that in pairs make a flag. -/
def isIndicator (c : Char) : Bool := 0x1f1e6 ≤ c.toNat && c.toNat ≤ 0x1f1ff

/-- The skin tones. -/
def isSkinTone (c : Char) : Bool := 0x1f3fb ≤ c.toNat && c.toNat ≤ 0x1f3ff

/-- The joiner of width nothing. -/
def joiner : Char := '\u200d'

/-- A character's own columns and what it begins for the one before it. -/
def alone (c : Char) : Int × Follow :=
  let n := c.toNat
  let w : Int := plainColumns c
  if n == 0xfe0f then (0, ⟨.nothing, .picture⟩)
  else if n == 0xfe0e then (0, ⟨.nothing, .letter⟩)
  else if n == 0xfe01 then (0, .of .quoteForm)
  else if isIndicator c then (1, .of .indicator)
  else if isSkinTone c then (2, .of .skinTone)
  else if pictures.has n then (2, .of .picture)
  else if alefs.has n then (w, .of .alef)
  else if n == 0x5dc then (w, .of (.lamed false))
  else if n == 0x1a10 then (w, .of (.ya false))
  else if tifinaghLetters.has n then (w, .of (.tifinagh false))
  else if n == 0xa4fc || n == 0xa4fd then (w, .of .tone)
  else if n == 0x10c03 then (w, .of (.orkhonI false))
  else if khmerLetters.has n then (w, .of .khmer)
  else if n == 0x16d67 then (w, .of .kiratE)
  else if n == 0x16d68 then (w, .of .kiratAi)
  else (w, .nothing)

/-- What a character makes of something begun to its right, where the two are
shown as one: the columns it adds, and what follows the next character. -/
def combine? (b : Begun) (c : Char) : Option (Int × Follow) :=
  let n := c.toNat
  match b with
  | .alef =>
    if lams.has n then some (0, .nothing)
    else if plainColumns c == 0 && transparentMarks.has n then some (0, .of .alef)
    else none
  | .lamed true => if n == 0x5d0 then some (0, .nothing) else none
  | .khmer => if n == 0x17d2 then some (-1, .nothing) else none
  | .ya true => if n == 0x1a17 then some (0, .of .yaVowel) else none
  | .yaVowel => if n == 0x1a15 then some (0, .nothing) else none
  | .tifinagh linked =>
    if n == 0x2d7f then some (1, .of .tifinaghJoiner)
    else if linked && tifinaghLetters.has n then some (0, .nothing)
    else none
  | .tifinaghJoiner => if tifinaghLetters.has n then some (-1, .nothing) else none
  | .tone => if 0xa4f8 ≤ n && n ≤ 0xa4fb then some (0, .nothing) else none
  | .orkhonI true => if n == 0x10c32 then some (0, .nothing) else none
  | .skinTone =>
    if toneBases.has n then some (0, .of .picture)
    else if c == joiner then some (0, .of .joinedPicture)
    else none
  | .indicator => if isIndicator c then some (1, .of .indicators) else none
  | .indicators =>
    if isIndicator c then some (1, .of .indicators)
    else if c == joiner then some (0, .of .joinedPicture)
    else none
  | .picture => if c == joiner then some (0, .of .joinedPicture) else none
  | .joinedPicture =>
    if n == 0x20e3 then some (0, .of .joinedKeycap)
    else if isIndicator c then some (1, .of .joinedIndicator)
    else if isSkinTone c then some (0, .of .skinTone)
    else if n == 0xe007f then some (0, .of .tagEnd)
    else if pictures.has n then some (0, .of .picture)
    else none
  | .joinedIndicator => if isIndicator c then some (-1, .of .joinedEven) else none
  | .joinedOdd =>
    if isIndicator c then some (-1, .of .joinedEven)
    else if c == joiner then some (0, .of .joinedPicture)
    else none
  | .joinedEven =>
    if isIndicator c then some (3, .of .joinedOdd)
    else if c == joiner then some (0, .of .joinedPicture)
    else none
  | .tagEnd =>
    if isTagLetter c then some (0, .of (.tagLetters 1))
    else if isTagDigit c then some (0, .of (.tagDigits 1))
    else none
  | .tagLetters k =>
    if isTagLetter c && k < 6 then some (0, .of (.tagLetters (k + 1)))
    else if isTagDigit c && k < 5 then some (0, .of (.tagDigits 1))
    else if n == 0x1f3f4 && 3 ≤ k then some (0, .of .picture)
    else none
  | .tagDigits k =>
    if isTagDigit c && k < 3 then some (0, .of (.tagDigits (k + 1)))
    else if n == 0x1f3f4 && 3 ≤ k then some (0, .of .picture)
    else none
  | .kiratE =>
    if n == 0x16d63 || n == 0x16d69 then some (0, .nothing)
    else if n == 0x16d67 then some (0, .of .kiratAi)
    else if n == 0x16d68 then some (1, .of .kiratE)
    else none
  | .kiratAi => if n == 0x16d63 then some (0, .nothing) else none
  | .quoteForm =>
    if n == 0x2018 || n == 0x2019 || n == 0x201c || n == 0x201d then some (2, .nothing) else none
  | _ => none

/-- The columns a character adds before something begun, no selector between. -/
def beside (b : Begun) (c : Char) : Int × Follow :=
  if c.toNat ≤ 0xa0 then
    if c == '\n' then (1, .of .lineFeed)
    else if c == '\r' && b == .lineFeed then (0, .nothing)
    else (1, .nothing)
  else if b == .nothing then alone c
  else if c.toNat == 0xfe0f then (0, (Follow.of b).selectPicture)
  else if c.toNat == 0xfe0e then (0, (Follow.of b).selectLetter)
  else if b.bridges && c == joiner then (0, .of b.joined)
  else if b.bridges && unseenMarks.has c.toNat then (0, .of b)
  else (combine? b c).getD (alone c)

/-- The columns a character adds before what follows it. -/
def columnsBefore (c : Char) (f : Follow) : Int × Follow :=
  let n := c.toNat
  match f.selector with
  | .picture =>
    if pictureBases.has n || letterBases.has n then
      (if f.begun.joins then 0 else 2, .of .picture)
    else beside f.begun c
  | .letter =>
    if n == 0xfe0f then (0, f.selectPicture)
    else if n == 0xfe0e then (0, f)
    else if letterBases.has n then (1, .nothing)
    else beside f.begun c
  | .none => beside f.begun c

/-- The columns of a text. -/
def columns (t : Text) : Nat :=
  (t.foldr (fun c (sum, follow) =>
    let (added, before) := columnsBefore c follow
    (sum + added, before)) ((0 : Int), Follow.nothing)).1.toNat

end Ninefold.Text
