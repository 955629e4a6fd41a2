import ReplicaTrace.Calendar.Date
import ReplicaTrace.Text.Blank
import ReplicaTrace.Text.Decimal

/-!
# Time stamps

A time stamp is written `YYYY/MM/DD HH:MM:SS.ffffff` and stands for the milliseconds since the
start of 1970.  It is read item by item from the left, and the first item that fails decides:

* a number may be preceded by blanks and has at most its usual count of digits, except that a year
  with a sign may have any;
* the space between date and time stands for any blanks, or none;
* a fraction is read if a point follows the seconds, to the ninth digit;
* nothing may be left over, and last of all the date has to exist.

`readTimestamp` gives the milliseconds, dropping what is finer; a second `60` counts as the second
after it.  `writeTimestamp` writes milliseconds with a fraction of six digits.
-/

namespace ReplicaTrace

namespace Calendar

open Text

/-- Why a text is no time stamp. -/
inductive TimestampError where
  /-- The text ends before the next item. -/
  | tooShort
  /-- The next item starts with a character that it cannot have. -/
  | badCharacter
  /-- A number is outside its bounds, or the date does not exist. -/
  | outOfRange
  /-- Something is left over. -/
  | tooLong
deriving DecidableEq, Repr

/-- What is said about the fault. -/
def TimestampError.message : TimestampError → String
  | .tooShort => "premature end of input"
  | .badCharacter => "input contains invalid characters"
  | .outOfRange => "input is out of range"
  | .tooLong => "trailing input"

/-! ### Items -/

/-- The greatest number that the digits of an item may have. -/
def maxItem : Nat := 0x7FFFFFFFFFFFFFFF

/-- Takes up to `width` digits after those with the value `acc`. -/
def takeDigits (acc : Nat) : Nat → List Char → Except TimestampError (Nat × List Char)
  | 0, cs => .ok (acc, cs)
  | _ + 1, [] => .ok (acc, [])
  | width + 1, c :: cs =>
    match digit? c with
    | none => .ok (acc, c :: cs)
    | some d =>
      if maxItem < acc * 10 + d then .error .outOfRange else takeDigits (acc * 10 + d) width cs

/-- Takes a number of one to `width` digits. -/
def takeNumber (width : Nat) : List Char → Except TimestampError (Nat × List Char)
  | [] => .error .tooShort
  | c :: cs => if c.isDigit then takeDigits 0 width (c :: cs) else .error .badCharacter

/-- Takes blanks and a number of at most two digits that lies between `low` and `high`. -/
def takeField (low high : Nat) (cs : List Char) : Except TimestampError (Nat × List Char) := do
  let (n, rest) ← takeNumber 2 (trimStart cs)
  if low ≤ n ∧ n ≤ high then return (n, rest) else throw .outOfRange

/-- Takes blanks and a year: up to four digits, or a sign and any count of them. -/
def takeYear (cs : List Char) : Except TimestampError (Int × List Char) := do
  let (year, rest) ← match trimStart cs with
    | '-' :: ds => (takeNumber ds.length ds).map fun (n, rest) => (-Int.ofNat n, rest)
    | '+' :: ds => (takeNumber ds.length ds).map fun (n, rest) => (Int.ofNat n, rest)
    | ds => (takeNumber 4 ds).map fun (n, rest) => (Int.ofNat n, rest)
  if -0x80000000 ≤ year ∧ year < 0x80000000 then return (year, rest) else throw .outOfRange

/-- Takes one given character. -/
def takeChar (expected : Char) : List Char → Except TimestampError (List Char)
  | [] => .error .tooShort
  | c :: cs => if c = expected then .ok cs else .error .badCharacter

/-- Takes a point and the digits after it, giving nanoseconds; without a point there are none. -/
def takeFraction : List Char → Except TimestampError (Nat × List Char)
  | '.' :: cs => do
    let (n, rest) ← takeNumber 9 cs
    return (n * Nat.pow 10 (9 - (cs.length - rest.length)), rest.dropWhile Char.isDigit)
  | cs => .ok (0, cs)

/-! ### Time stamps -/

/-- The milliseconds of a day in one moment of it. -/
def millisOfDay (hour minute second nanos : Nat) : Nat :=
  ((hour * 60 + minute) * 60 + second) * 1000 + nanos / 1000000

/-- The milliseconds of a day. -/
def millisPerDay : Nat := 86400000

/-- Reads a time stamp as milliseconds since the start of 1970. -/
def readTimestamp (cs : List Char) : Except TimestampError Int := do
  let (year, cs) ← takeYear cs
  let cs ← takeChar '/' cs
  let (month, cs) ← takeField 1 12 cs
  let cs ← takeChar '/' cs
  let (day, cs) ← takeField 1 31 cs
  let (hour, cs) ← takeField 0 23 cs
  let cs ← takeChar ':' cs
  let (minute, cs) ← takeField 0 59 cs
  let cs ← takeChar ':' cs
  let (second, cs) ← takeField 0 60 cs
  let (nanos, cs) ← takeFraction cs
  let date : Date := ⟨year, month, day⟩
  if cs ≠ [] then throw .tooLong
  if ¬ (date.Exists ∧ date.InRange) then throw .outOfRange
  return date.dayNumber * millisPerDay + millisOfDay hour minute second nanos

/-! ### Writing -/

/-- A number with zeros in front up to the given width. -/
def padded (width n : Nat) : List Char :=
  let digits := Nat.toDigits 10 n
  List.replicate (width - digits.length) '0' ++ digits

/-- The date as `YYYY/MM/DD`, for years from `0` to `9999`. -/
def writeDate (d : Date) : List Char :=
  padded 4 d.year.toNat ++ '/' :: padded 2 d.month ++ '/' :: padded 2 d.day

/-- The time of day as `HH:MM:SS.ffffff`. -/
def writeTime (millis : Nat) : List Char :=
  padded 2 (millis / 3600000) ++ ':' :: padded 2 (millis / 60000 % 60) ++ ':' ::
    padded 2 (millis / 1000 % 60) ++ '.' :: padded 6 (millis % 1000 * 1000)

/-- The date part of a moment given in milliseconds since the start of 1970. -/
def dateText (time : Int) : List Char :=
  writeDate (.ofDayNumber (time / millisPerDay))

/-- The time part of a moment given in milliseconds since the start of 1970. -/
def timeText (time : Int) : List Char :=
  writeTime (time % millisPerDay).toNat

/-- A moment as `YYYY/MM/DD HH:MM:SS.ffffff`. -/
def writeTimestamp (time : Int) : List Char :=
  dateText time ++ ' ' :: timeText time

end Calendar

end ReplicaTrace
