/-!
# Days of the calendar

Dates of the Gregorian calendar, carried on to all years (year `0` comes before year `1`), and
their numbers in the count of days that gives `1970/01/01` the number `0`.

* `dayNumber` : the number of a date.
* `yearOfDay`, `monthOfDay` : the way back, from a number to year and month.
* `daysBeforeYear_succ` : a year is as long as the days between its start and the next one's.
-/

namespace ReplicaTrace

namespace Calendar

/-- Every fourth year is a leap year; of the hundreds, every fourth. -/
def isLeap (year : Int) : Bool :=
  year % 4 == 0 && (year % 100 != 0 || year % 400 == 0)

/-- The length of a month. -/
def daysInMonth (leap : Bool) (month : Nat) : Nat :=
  match month with
  | 2 => if leap then 29 else 28
  | 4 | 6 | 9 | 11 => 30
  | _ => 31

/-- The days of a year before the first day of a month. -/
def daysBeforeMonth (leap : Bool) (month : Nat) : Nat :=
  let leapDay := if leap then 1 else 0
  match month with
  | 1 => 0
  | 2 => 31
  | 3 => 59 + leapDay
  | 4 => 90 + leapDay
  | 5 => 120 + leapDay
  | 6 => 151 + leapDay
  | 7 => 181 + leapDay
  | 8 => 212 + leapDay
  | 9 => 243 + leapDay
  | 10 => 273 + leapDay
  | 11 => 304 + leapDay
  | 12 => 334 + leapDay
  | _ => 365 + leapDay

/-- The days from the start of year `1` to the start of a year, negative for earlier years. -/
def daysBeforeYear (year : Int) : Int :=
  365 * (year - 1) + (year - 1) / 4 - (year - 1) / 100 + (year - 1) / 400

/-- The days from the start of year `1` to the start of 1970. -/
def epoch : Int := 719162

/-- The earliest and the latest year for which time stamps are kept. -/
def minYear : Int := -262143

@[inherit_doc minYear]
def maxYear : Int := 262142

/-- A day of the calendar. -/
structure Date where
  /-- The year, possibly `0` or negative. -/
  year : Int
  /-- The month, from `1`. -/
  month : Nat
  /-- The day of the month, from `1`. -/
  day : Nat
deriving DecidableEq, Repr

namespace Date

/-- The date exists in the calendar. -/
def Exists (d : Date) : Prop :=
  1 ≤ d.month ∧ d.month ≤ 12 ∧ 1 ≤ d.day ∧ d.day ≤ daysInMonth (isLeap d.year) d.month

instance (d : Date) : Decidable d.Exists :=
  inferInstanceAs (Decidable (_ ∧ _ ∧ _ ∧ _))

/-- The date lies in the years for which time stamps are kept. -/
def InRange (d : Date) : Prop :=
  minYear ≤ d.year ∧ d.year ≤ maxYear

instance (d : Date) : Decidable d.InRange :=
  inferInstanceAs (Decidable (_ ∧ _))

/-- The number of the day, `0` for the first day of 1970. -/
def dayNumber (d : Date) : Int :=
  daysBeforeYear d.year + daysBeforeMonth (isLeap d.year) d.month + (d.day - 1) - epoch

end Date

/-! ### From numbers to dates -/

/-- The year of the day with `n` days between it and the start of year `1`.  The mean length of a
year points at the year or at one of its neighbours. -/
def yearOfDay (n : Int) : Int :=
  let guess := 400 * n / 146097 + 1
  if n < daysBeforeYear guess then guess - 1
  else if daysBeforeYear (guess + 1) ≤ n then guess + 1
  else guess

/-- The month of the day with `n` days between it and the start of its year. -/
def monthOfDay (leap : Bool) (n : Nat) : Nat :=
  if n < daysBeforeMonth leap 7 then
    if n < daysBeforeMonth leap 2 then 1
    else if n < daysBeforeMonth leap 3 then 2
    else if n < daysBeforeMonth leap 4 then 3
    else if n < daysBeforeMonth leap 5 then 4
    else if n < daysBeforeMonth leap 6 then 5
    else 6
  else
    if n < daysBeforeMonth leap 8 then 7
    else if n < daysBeforeMonth leap 9 then 8
    else if n < daysBeforeMonth leap 10 then 9
    else if n < daysBeforeMonth leap 11 then 10
    else if n < daysBeforeMonth leap 12 then 11
    else 12

/-- The date with the given number. -/
def Date.ofDayNumber (number : Int) : Date :=
  let year := yearOfDay (number + epoch)
  let inYear := (number + epoch - daysBeforeYear year).toNat
  let month := monthOfDay (isLeap year) inYear
  ⟨year, month, inYear - daysBeforeMonth (isLeap year) month + 1⟩

/-! ### Lengths of years -/

/-- The days between the starts of two consecutive years. -/
theorem daysBeforeYear_succ (year : Int) :
    daysBeforeYear (year + 1) = daysBeforeYear year + 365 + (if isLeap year then 1 else 0) := by
  simp only [daysBeforeYear, isLeap, Bool.and_eq_true, Bool.or_eq_true, beq_iff_eq, bne_iff_ne]
  split <;> omega

/-- A year starts on or before a day, and the next one after it. -/
theorem yearOfDay_bounds (n : Int) :
    daysBeforeYear (yearOfDay n) ≤ n ∧ n < daysBeforeYear (yearOfDay n + 1) := by
  have key : ∀ guess : Int, guess = 400 * n / 146097 + 1 →
      daysBeforeYear (guess - 1) ≤ n ∧ n < daysBeforeYear (guess + 1 + 1) := by
    intro guess hg
    simp only [daysBeforeYear]
    omega
  obtain ⟨hlo, hhi⟩ := key _ rfl
  simp only [yearOfDay]
  split
  · next h => exact ⟨hlo, by rwa [Int.sub_add_cancel]⟩
  · next h =>
    split
    · next h' => exact ⟨h', hhi⟩
    · next h' => exact ⟨Int.not_lt.1 h, Int.not_le.1 h'⟩

/-- The days of a year before a month and those of the month lead to the next month. -/
theorem daysBeforeMonth_succ {leap : Bool} {month : Nat} (h₁ : 1 ≤ month) (h₂ : month ≤ 12) :
    daysBeforeMonth leap (month + 1) = daysBeforeMonth leap month + daysInMonth leap month := by
  have : ∀ leap, ∀ m : Fin 12, daysBeforeMonth leap (m.val + 1 + 1) =
      daysBeforeMonth leap (m.val + 1) + daysInMonth leap (m.val + 1) := by decide
  have := this leap ⟨month - 1, by omega⟩
  simpa only [Nat.sub_add_cancel h₁] using this

end Calendar

end ReplicaTrace
