import ReplicaTrace.Calendar.Timestamp
import ReplicaTrace.Text.Decimal
import ReplicaTrace.Toml.Reader

/-!
# Moments

A date, a time of day, or both with a `T` or a space between them and perhaps an offset from world
time behind.  The date has to exist, the second `60` is allowed for leap seconds, the seconds may be
left out, and a fraction of a second may have any number of digits.

* `Toml.moment?` : a text as a moment.
* `Moment.text` : the one form in which a moment is passed on, with seconds and a `T`, and with nine
  digits of the fraction at most and no zero at its end.
-/

namespace ReplicaTrace

namespace Toml

open Calendar

/-- A time of day. -/
structure DayTime where
  /-- The hour. -/
  hour : Nat
  /-- The minute. -/
  minute : Nat
  /-- The second. -/
  second : Nat := 0
  /-- The digits of the fraction of the second. -/
  fraction : List Char := []
deriving DecidableEq, Repr

/-- How far a time of day is from world time. -/
inductive Offset where
  /-- It is world time. -/
  | world
  /-- It is ahead by so many minutes, or behind if they are negative. -/
  | minutes (n : Int)
deriving DecidableEq, Repr

/-- A moment, as far as it is given. -/
structure Moment where
  /-- The date. -/
  date : Option Date := none
  /-- The time of day. -/
  time : Option DayTime := none
  /-- The offset. -/
  offset : Option Offset := none
deriving DecidableEq, Repr

/-! ### Writing -/

/-- The date as `YYYY-MM-DD`. -/
def dateText (d : Date) : List Char :=
  padded 4 d.year.toNat ++ '-' :: padded 2 d.month ++ '-' :: padded 2 d.day

/-- The fraction of a second with its point, unless all of its first nine digits are zeros. -/
def fractionText (digits : List Char) : List Char :=
  match ((digits.take 9).reverse.dropWhile (· == '0')).reverse with
  | [] => []
  | digits => '.' :: digits

/-- The time of day. -/
def DayTime.text (t : DayTime) : List Char :=
  padded 2 t.hour ++ ':' :: padded 2 t.minute ++ ':' :: padded 2 t.second ++ fractionText t.fraction

/-- The offset; one of zero minutes has a plus sign. -/
def Offset.text : Offset → List Char
  | .world => ['Z']
  | .minutes n =>
    (if n < 0 then '-' else '+') ::
      (padded 2 (n.natAbs / 60) ++ ':' :: padded 2 (n.natAbs % 60))

/-- The moment. -/
def Moment.text (m : Moment) : String :=
  let date := (m.date.map dateText).getD []
  let link := if m.date.isSome ∧ m.time.isSome then ['T'] else []
  let time := (m.time.map DayTime.text).getD []
  String.ofList (date ++ link ++ time ++ (m.offset.map Offset.text).getD [])

/-! ### Reading -/

open Reader

/-- Two digits of a number from `low` to `high`. -/
def twoDigits (low high : Nat) : Reader Nat
  | a :: b :: rest => do
    let n := (← Text.digit? a) * 10 + (← Text.digit? b)
    if low ≤ n ∧ n ≤ high then some (n, rest) else none
  | _ => none

/-- A date. -/
def date : Reader Date := do
  let year := (← twoDigits 0 99) * 100 + (← twoDigits 0 99)
  expect '-'
  let month ← twoDigits 1 12
  expect '-'
  let day ← twoDigits 1 (daysInMonth (isLeap year) month)
  return ⟨year, month, day⟩

/-- Hours and minutes. -/
def hoursAndMinutes : Reader (Nat × Nat) := do
  let hour ← twoDigits 0 23
  expect ':'
  return (hour, ← twoDigits 0 59)

/-- A time of day. -/
def dayTime : Reader DayTime := do
  let (hour, minute) ← hoursAndMinutes
  unless ← accept ':' do return { hour, minute }
  let second ← twoDigits 0 60
  unless ← accept '.' do return { hour, minute, second }
  let fraction ← takeWhile Char.isDigit
  if fraction.isEmpty then failure else return { hour, minute, second, fraction }

/-- One of the characters if it comes next. -/
def acceptAny (cs : List Char) : Reader (Option Char) := do
  match ← next? with
  | some c =>
    if c ∈ cs then
      expect c
      return some c
    else return none
  | none => return none

/-- An offset from world time, if there is one. -/
def offset : Reader (Option Offset) := do
  match ← acceptAny ['Z', 'z', '+', '-'] with
  | none => return none
  | some c =>
    if c = 'Z' ∨ c = 'z' then return some .world
    let (hours, minutes) ← hoursAndMinutes
    return some (.minutes ((if c = '-' then -1 else 1) * (hours * 60 + minutes : Nat)))

/-- A moment that starts with a date. -/
def datedMoment : Reader Moment := do
  let date ← date
  match ← acceptAny ['T', 't', ' '] with
  | none => return { date }
  | some _ => return { date, time := ← dayTime, offset := ← offset }

/-- A moment. -/
def moment : Reader Moment :=
  datedMoment <|> (do return { time := ← dayTime })

/-- The text as a moment. -/
def moment? (cs : List Char) : Option Moment := readAll moment cs

end Toml

end ReplicaTrace
