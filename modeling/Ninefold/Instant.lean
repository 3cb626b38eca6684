import Ninefold.Text.Blank

/-!
# Instants

A point of time, counted in minutes from the start of 1970 in universal time,
with the second and the nanosecond within the minute. A leap second is second
60 of its minute. Offsets from universal time are whole minutes, so that an
offset moves the minute and nothing else.

The written form is `2024-01-31T23:59:59.5Z` with no fraction or one of three,
six or nine digits. Reading is looser: blanks before each number and each mark,
a small letter or a space between date and time, fractions of any length, and
an offset instead of the `Z`.
-/

namespace Ninefold

/-- A point of time. -/
structure Instant where
  minute : Int
  second : Nat
  nanosecond : Nat
deriving DecidableEq, Inhabited

/-- A day of the calendar. -/
structure Day where
  year : Int
  month : Nat
  day : Nat
deriving DecidableEq

namespace Day

/-- Whether a year has a 29th of February. -/
def isLeap (year : Int) : Bool := year % 4 == 0 && (year % 100 != 0 || year % 400 == 0)

/-- The number of days of a month. -/
def monthLength (year : Int) (month : Nat) : Nat :=
  if month = 2 then (if isLeap year then 29 else 28)
  else if month = 4 || month = 6 || month = 9 || month = 11 then 30
  else 31

/-- Whether the calendar has the day, within the years that are kept. -/
def isValid (d : Day) : Bool :=
  -262143 ≤ d.year && d.year ≤ 262142 && 1 ≤ d.month && d.month ≤ 12 && 1 ≤ d.day
    && d.day ≤ monthLength d.year d.month

/-- The number of days from the start of 1970. Years are counted from March, so
that the leap day is the last of its year, in cycles of 400 years. -/
def toNumber (d : Day) : Int :=
  let year : Int := if d.month ≤ 2 then d.year - 1 else d.year
  let month : Int := if d.month ≤ 2 then d.month + 9 else d.month - 3
  let cycle := year / 400
  let inCycle := year % 400
  let inYear := (153 * month + 2) / 5 + d.day - 1
  cycle * 146097 + (inCycle * 365 + inCycle / 4 - inCycle / 100 + inYear) - 719468

/-- The day with a number of days from the start of 1970. -/
def ofNumber (n : Int) : Day :=
  let shifted := n + 719468
  let cycle := shifted / 146097
  let dayInCycle := shifted % 146097
  let inCycle := (dayInCycle - dayInCycle / 1460 + dayInCycle / 36524 - dayInCycle / 146096) / 365
  let inYear := dayInCycle - (365 * inCycle + inCycle / 4 - inCycle / 100)
  let month := (5 * inYear + 2) / 153
  let day := inYear - (153 * month + 2) / 5 + 1
  let civil := if month < 10 then month + 3 else month - 9
  let year := inCycle + cycle * 400
  ⟨if civil ≤ 2 then year + 1 else year, civil.toNat, day.toNat⟩

end Day

namespace Instant

/-! ## Writing -/

/-- The digits of a number, with zeros before them up to a width. -/
def padded (width n : Nat) : Text :=
  let ds := Nat.toDigits 10 n
  List.replicate (width - ds.length) '0' ++ ds

/-- A year: four digits, and a sign if they do not suffice. -/
def yearText (y : Int) : Text :=
  if 0 ≤ y && y ≤ 9999 then padded 4 y.toNat
  else (if y < 0 then '-' else '+') :: padded 4 y.natAbs

/-- A fraction of a second in as few groups of three digits as hold it. -/
def fractionText (nanosecond : Nat) : Text :=
  if nanosecond = 0 then []
  else if nanosecond % 1000000 = 0 then '.' :: padded 3 (nanosecond / 1000000)
  else if nanosecond % 1000 = 0 then '.' :: padded 6 (nanosecond / 1000)
  else '.' :: padded 9 nanosecond

/-- The written form of an instant. -/
def text (i : Instant) : Text :=
  let d := Day.ofNumber (i.minute / 1440)
  let m := (i.minute % 1440).toNat
  yearText d.year ++ '-' :: padded 2 d.month ++ '-' :: padded 2 d.day ++ 'T' :: padded 2 (m / 60)
    ++ ':' :: padded 2 (m % 60) ++ ':' :: padded 2 i.second ++ fractionText i.nanosecond ++ ['Z']

/-! ## Reading -/

/-- The number of at most `most` digits that a text begins with, and the rest. -/
def digits? (most : Nat) (t : Text) : Option (Nat × Text) :=
  let ds := (t.take most).takeWhile Char.isDigit
  if ds.isEmpty then none else some (Nat.ofDigitChars 10 ds 0, t.drop ds.length)

/-- A number after blanks, within bounds, and the rest. -/
def number? (most low high : Nat) (t : Text) : Option (Nat × Text) :=
  (digits? most (Text.trimStart t)).filter fun (n, _) => low ≤ n && n ≤ high

/-- The rest of a text after blanks and a mark. -/
def mark? (c : Char) (t : Text) : Option Text :=
  match Text.trimStart t with
  | d :: rest => if d = c then some rest else none
  | [] => none

/-- A year after blanks: four digits at most, or any number after a sign. -/
def year? (t : Text) : Option (Int × Text) :=
  match Text.trimStart t with
  | '-' :: rest => (digits? rest.length rest).map fun (n, r) => (-(n : Int), r)
  | '+' :: rest => (digits? rest.length rest).map fun (n, r) => ((n : Int), r)
  | t => (digits? 4 t).map fun (n, r) => ((n : Int), r)

/-- A day. -/
def day? (t : Text) : Option (Day × Text) := do
  let (year, t) ← year? t
  let t ← mark? '-' t
  let (month, t) ← number? 2 1 12 t
  let t ← mark? '-' t
  let (day, t) ← number? 2 1 31 t
  return (⟨year, month, day⟩, t)

/-- The rest of a text after the sign between a day and a time. -/
def afterDay? : Text → Option Text
  | c :: rest => if c == 't' || c == 'T' || c == ' ' then some rest else none
  | [] => none

/-- A fraction of a second in nanoseconds; digits past the ninth are dropped. -/
def fraction? : Text → Option (Nat × Text)
  | '.' :: rest =>
    (digits? 9 rest).map fun (n, r) =>
      let used := rest.length - r.length
      (n * Nat.pow 10 (9 - used), r.dropWhile Char.isDigit)
  | t => some (0, t)

/-- The minutes of two digits each of hours and minutes, with colons and blanks
between them. -/
def offsetMinutes? (t : Text) : Option (Nat × Text) :=
  match t with
  | a :: b :: rest =>
    if a.isDigit && b.isDigit then
      match rest.dropWhile fun c => c == ':' || Text.isBlank c with
      | c :: d :: rest =>
        if '0' ≤ c ∧ c ≤ '5' ∧ d.isDigit then
          some (Nat.ofDigitChars 10 [a, b] 0 * 60 + Nat.ofDigitChars 10 [c, d] 0, rest)
        else none
      | _ => none
    else none
  | _ => none

/-- The offset of a clock from universal time, in minutes. -/
def offset? (t : Text) : Option (Int × Text) :=
  let ahead (sign : Int) (t : Text) : Option (Int × Text) :=
    ((offsetMinutes? t).filter fun (m, _) => m < 1440).map fun (m, r) => (sign * m, r)
  match t with
  | 'Z' :: rest => some (0, rest)
  | 'z' :: rest => some (0, rest)
  | '+' :: rest => ahead 1 rest
  | '-' :: rest => ahead (-1) rest
  | '\u2212' :: rest => ahead (-1) rest
  | t => if (t.take 3).map Char.toUpper = ['U', 'T', 'C'] then some (0, t.drop 3) else none

/-- The instant that a text writes. -/
def ofText? (t : Text) : Option Instant := do
  let (day, t) ← day? t
  let t ← afterDay? t
  let (hour, t) ← number? 2 0 23 t
  let t ← mark? ':' t
  let (minute, t) ← number? 2 0 59 t
  let t ← mark? ':' t
  let (second, t) ← number? 2 0 60 t
  let (nanosecond, t) ← fraction? t
  let (offset, t) ← offset? (Text.trimStart t)
  guard (Text.allBlank t)
  guard day.isValid
  let at_ := day.toNumber * 1440 + hour * 60 + minute - offset
  guard (Day.isValid (Day.ofNumber (at_ / 1440)))
  return ⟨at_, second, nanosecond⟩

end Instant

end Ninefold
