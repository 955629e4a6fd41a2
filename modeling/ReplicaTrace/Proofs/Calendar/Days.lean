import Mathlib.Data.Int.Notation
import Mathlib.Data.Nat.Notation
import ReplicaTrace.Calendar.Date

/-!
# Dates and their numbers

The date with a number exists in the calendar and has that number.  The number gives the year by
the days before it; what is left is a day of that year, which gives the month and the day.

* `monthOfDay_bounds` : a day of a year lies in its month.
* `dayNumber_ofDayNumber`, `exists_ofDayNumber` : the date with a number.
-/

namespace ReplicaTrace

namespace Calendar

/-- The length of a year. -/
def daysInYear (leap : Bool) : ℕ :=
  if leap then 366 else 365

/-- A day of a year lies in its month. -/
theorem monthOfDay_bounds {leap : Bool} {n : ℕ} (h : n < daysInYear leap) :
    1 ≤ monthOfDay leap n ∧ monthOfDay leap n ≤ 12 ∧
      daysBeforeMonth leap (monthOfDay leap n) ≤ n ∧
      n < daysBeforeMonth leap (monthOfDay leap n + 1) := by
  have table : ∀ leap, ∀ n : Fin 366, n < daysInYear leap →
      1 ≤ monthOfDay leap n ∧ monthOfDay leap n ≤ 12 ∧
      daysBeforeMonth leap (monthOfDay leap n) ≤ n ∧
      n < daysBeforeMonth leap (monthOfDay leap n + 1) := by decide +kernel
  have hn : n < 366 := Nat.lt_of_lt_of_le h (by cases leap <;> decide)
  exact table leap ⟨n, hn⟩ h

/-- The day in its year, from `0`, of the day with `n` days between it and the start of year `1`. -/
def dayInYear (n : ℤ) : ℕ :=
  (n - daysBeforeYear (yearOfDay n)).toNat

theorem dayInYear_spec (n : ℤ) : (dayInYear n : ℤ) = n - daysBeforeYear (yearOfDay n) ∧
    dayInYear n < daysInYear (isLeap (yearOfDay n)) := by
  obtain ⟨hlow, hhigh⟩ := yearOfDay_bounds n
  rw [daysBeforeYear_succ] at hhigh
  refine ⟨Int.toNat_of_nonneg (by omega), ?_⟩
  unfold dayInYear daysInYear
  by_cases hleap : isLeap (yearOfDay n) = true
  · rw [if_pos hleap] at hhigh ⊢
    omega
  · rw [if_neg hleap] at hhigh ⊢
    omega

namespace Date

theorem ofDayNumber_eq (number : ℤ) :
    ofDayNumber number =
      ⟨yearOfDay (number + epoch),
        monthOfDay (isLeap (yearOfDay (number + epoch))) (dayInYear (number + epoch)),
        dayInYear (number + epoch) - daysBeforeMonth (isLeap (yearOfDay (number + epoch)))
          (monthOfDay (isLeap (yearOfDay (number + epoch))) (dayInYear (number + epoch))) + 1⟩ :=
  rfl

/-- **The date with a number** exists. -/
theorem exists_ofDayNumber (number : ℤ) : (ofDayNumber number).Exists := by
  obtain ⟨h₁, h₂, hlow, hhigh⟩ := monthOfDay_bounds (dayInYear_spec (number + epoch)).2
  rw [daysBeforeMonth_succ h₁ h₂] at hhigh
  rw [ofDayNumber_eq]
  refine ⟨h₁, h₂, ?_, ?_⟩
  · dsimp only
    omega
  · dsimp only
    omega

/-- **The date with a number** has that number. -/
theorem dayNumber_ofDayNumber (number : ℤ) : (ofDayNumber number).dayNumber = number := by
  obtain ⟨hday, hlt⟩ := dayInYear_spec (number + epoch)
  obtain ⟨-, -, hlow, -⟩ := monthOfDay_bounds hlt
  rw [ofDayNumber_eq, dayNumber]
  dsimp only
  omega

end Date

end Calendar

end ReplicaTrace
