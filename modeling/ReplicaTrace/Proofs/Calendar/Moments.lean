import Mathlib.Algebra.Group.Nat.Defs
import ReplicaTrace.Calendar.Timestamp
import ReplicaTrace.Proofs.Calendar.Days
import ReplicaTrace.Proofs.Results
import ReplicaTrace.Proofs.Text.Numbers

/-!
# Time stamps that were written

A time stamp is made up of numbers with zeros in front, so that each has the full width of its item.
Read item by item it gives these numbers, and for a moment of the years `0` to `9999` its milliseconds.

* `takeNumber_padded` : a number with zeros in front is read back.
* `readTimestamp_padded` : a time stamp with full items.
* `readTimestamp_writeTimestamp` : a moment that was written.
-/

namespace ReplicaTrace

namespace Calendar

open Text

variable {width n : ℕ} {rest : List Char}

/-! ### Numbers with zeros in front -/

theorem length_padded (hwidth : 0 < width) (h : n < 10 ^ width) : (padded width n).length = width := by
  have hle := (Nat.length_toDigits_le_iff (by decide) hwidth).2 h
  rw [padded, List.length_append, List.length_replicate]
  omega

theorem isDigit_of_mem_padded {c : Char} (h : c ∈ padded width n) : c.isDigit = true := by
  rcases List.mem_append.1 h with h | h
  · obtain rfl := List.eq_of_mem_replicate h
    decide
  · exact Nat.isDigit_of_mem_toDigits (by decide) (by decide) h

theorem digitsValue_replicate_zero (k : ℕ) (cs : List Char) :
    digitsValue 0 (List.replicate k '0' ++ cs) = digitsValue 0 cs := by
  induction k with
  | zero => rfl
  | succ k ih => exact ih

theorem digitsValue_padded : digitsValue 0 (padded width n) = n := by
  rw [padded, digitsValue_replicate_zero, ← Nat.toList_repr]
  exact digitsValue_toString n

theorem exists_padded_eq_cons (width n : ℕ) :
    ∃ c cs, padded width n = c :: cs ∧ c.isDigit = true := by
  have hne : padded width n ≠ [] := by
    rw [padded]
    exact List.append_ne_nil_of_right_ne_nil _ Nat.toDigits_ne_nil
  obtain ⟨c, cs, hcs⟩ := List.exists_cons_of_ne_nil hne
  exact ⟨c, cs, hcs, isDigit_of_mem_padded (hcs ▸ List.mem_cons_self)⟩

/-! ### Items -/

/-- Digits are taken up to a character that is none, or up to the width of the item. -/
theorem takeDigits_append {acc : ℕ} {ds : List Char} (hdigits : ∀ c ∈ ds, c.isDigit = true)
    (hwidth : ds.length ≤ width)
    (hstop : ds.length = width ∨ ∀ c ∈ rest.head?, c.isDigit = false)
    (hmax : digitsValue acc ds ≤ maxItem) :
    takeDigits acc width (ds ++ rest) = .ok (digitsValue acc ds, rest) := by
  induction ds generalizing acc width with
  | nil =>
    rw [List.nil_append, digitsValue_nil]
    cases width with
    | zero => rfl
    | succ width =>
      cases rest with
      | nil => rfl
      | cons c cs =>
        have hc : c.isDigit = false := by simpa using hstop
        simp [takeDigits, digit?, hc]
  | cons c ds ih =>
    have hc : c.isDigit = true := hdigits c List.mem_cons_self
    obtain ⟨width, rfl⟩ : ∃ w, width = w + 1 := ⟨width - 1, by rw [List.length_cons] at hwidth; omega⟩
    rw [digitsValue_cons] at hmax ⊢
    have hle := le_digitsValue (acc * 10 + digitValue c) ds
    rw [List.cons_append, takeDigits, digit?, if_pos hc]
    dsimp only
    rw [if_neg (by omega)]
    exact ih (fun d hd => hdigits d (List.mem_cons_of_mem _ hd)) (by simpa using hwidth)
      (by simpa using hstop) hmax

/-- A number with zeros in front is taken by an item of its width, or of a greater one if nothing
follows. -/
theorem takeNumber_padded {size : ℕ} (hsize : 0 < size) (hn : n < 10 ^ size) (hmax : n ≤ maxItem)
    (hwidth : size ≤ width) (hstop : size = width ∨ rest = []) :
    takeNumber width (padded size n ++ rest) = .ok (n, rest) := by
  have hlength := length_padded hsize hn
  have hnext : (padded size n).length = width ∨ ∀ c ∈ rest.head?, c.isDigit = false := by
    rcases hstop with rfl | rfl
    · exact .inl hlength
    · exact .inr (by simp)
  have hvalue : digitsValue 0 (padded size n) ≤ maxItem := by rwa [digitsValue_padded]
  have htake := takeDigits_append (fun _ => isDigit_of_mem_padded) (by omega) hnext hvalue
  rw [digitsValue_padded] at htake
  obtain ⟨c, cs, hcs, hc⟩ := exists_padded_eq_cons size n
  rw [hcs, List.cons_append] at htake ⊢
  rw [takeNumber, if_pos hc, htake]

theorem trimStart_padded (width n : ℕ) (rest : List Char) :
    trimStart (padded width n ++ rest) = padded width n ++ rest := by
  obtain ⟨c, cs, hcs, hc⟩ := exists_padded_eq_cons width n
  rw [hcs, List.cons_append, trimStart, List.dropWhile_cons_of_neg (by simp [isBlank_of_isDigit hc])]

variable {low high : ℕ}

theorem takeField_padded (hlow : low ≤ n) (hn : n ≤ high) (hhigh : high < 100) :
    takeField low high (padded 2 n ++ rest) = .ok (n, rest) := by
  have hmax : n ≤ maxItem := by unfold maxItem; omega
  rw [takeField, trimStart_padded,
    takeNumber_padded (by decide) (by omega) hmax (Nat.le_refl 2) (.inl rfl)]
  exact if_pos ⟨hlow, hn⟩

theorem takeField_blank (cs : List Char) : takeField low high (' ' :: cs) = takeField low high cs :=
  rfl

theorem takeYear_padded (hn : n < 10000) :
    takeYear (padded 4 n ++ rest) = .ok (Int.ofNat n, rest) := by
  have hmax : n ≤ maxItem := by unfold maxItem; omega
  have htake : takeNumber 4 (padded 4 n ++ rest) = .ok (n, rest) :=
    takeNumber_padded (by decide) hn hmax (Nat.le_refl 4) (.inl rfl)
  have hrange : -0x80000000 ≤ Int.ofNat n ∧ Int.ofNat n < 0x80000000 := by
    rw [Int.ofNat_eq_natCast]
    omega
  obtain ⟨c, cs, hcs, hc⟩ := exists_padded_eq_cons 4 n
  rw [takeYear, trimStart_padded]
  rw [hcs, List.cons_append] at htake ⊢
  -- a year that starts with a digit has no sign
  split
  · next h =>
    obtain ⟨rfl, -⟩ := List.cons.inj h
    exact absurd hc (by decide)
  · next h =>
    obtain ⟨rfl, -⟩ := List.cons.inj h
    exact absurd hc (by decide)
  · refine except_bind_eq_ok_iff.2 ⟨(Int.ofNat n, rest), ?_, ?_⟩
    · rw [htake]
      rfl
    · dsimp only
      rw [if_pos hrange]
      rfl

theorem takeChar_self (c : Char) : takeChar c (c :: rest) = .ok rest :=
  if_pos rfl

theorem takeFraction_padded (hn : n < 1000000) :
    takeFraction ('.' :: padded 6 n) = .ok (n * 1000, []) := by
  have hmax : n ≤ maxItem := by unfold maxItem; omega
  have htake : takeNumber 9 (padded 6 n ++ []) = .ok (n, []) :=
    takeNumber_padded (by decide) hn hmax (by decide) (.inr rfl)
  rw [List.append_nil] at htake
  have hlength : (padded 6 n).length = 6 := length_padded (by decide) hn
  rw [takeFraction, htake]
  change Except.ok (n * Nat.pow 10 (9 - ((padded 6 n).length - 0)), _) = _
  rw [hlength]
  rfl

/-! ### Time stamps -/

theorem daysInMonth_le (leap : Bool) (month : ℕ) : daysInMonth leap month ≤ 31 := by
  unfold daysInMonth
  split
  · cases leap <;> decide
  all_goals decide

/-- **A time stamp with full items** is read as its date and its time of day. -/
theorem readTimestamp_padded {year month day hour minute second micros : ℕ} (hyear : year < 10000)
    (hdate : Date.Exists ⟨year, month, day⟩) (hhour : hour ≤ 23) (hminute : minute ≤ 59)
    (hsecond : second ≤ 60) (hmicros : micros < 1000000) :
    readTimestamp (padded 4 year ++ '/' :: (padded 2 month ++ '/' :: (padded 2 day ++ ' ' ::
        (padded 2 hour ++ ':' :: (padded 2 minute ++ ':' :: (padded 2 second ++ '.' ::
          padded 6 micros)))))) =
      .ok (Date.dayNumber ⟨year, month, day⟩ * millisPerDay +
        millisOfDay hour minute second (micros * 1000)) := by
  have hday : day ≤ 31 := Nat.le_trans hdate.2.2.2 (daysInMonth_le _ _)
  have hrange : Date.InRange ⟨year, month, day⟩ := by
    simp only [Date.InRange, minYear, maxYear]
    omega
  rw [readTimestamp]
  refine except_bind_eq_ok_iff.2 ⟨_, takeYear_padded hyear, ?_⟩
  refine except_bind_eq_ok_iff.2 ⟨_, takeChar_self '/', ?_⟩
  refine except_bind_eq_ok_iff.2 ⟨_, takeField_padded hdate.1 hdate.2.1 (by decide), ?_⟩
  refine except_bind_eq_ok_iff.2 ⟨_, takeChar_self '/', ?_⟩
  refine except_bind_eq_ok_iff.2 ⟨_, takeField_padded hdate.2.2.1 hday (by decide), ?_⟩
  refine except_bind_eq_ok_iff.2 ⟨_, (takeField_blank _).trans
    (takeField_padded (Nat.zero_le _) hhour (by decide)), ?_⟩
  refine except_bind_eq_ok_iff.2 ⟨_, takeChar_self ':', ?_⟩
  refine except_bind_eq_ok_iff.2 ⟨_, takeField_padded (Nat.zero_le _) hminute (by decide), ?_⟩
  refine except_bind_eq_ok_iff.2 ⟨_, takeChar_self ':', ?_⟩
  refine except_bind_eq_ok_iff.2 ⟨_, takeField_padded (Nat.zero_le _) hsecond (by decide), ?_⟩
  refine except_bind_eq_ok_iff.2 ⟨_, takeFraction_padded hmicros, ?_⟩
  -- nothing is left over, and the date exists
  dsimp only
  rw [if_neg (fun h => h rfl), if_neg (not_not_intro ⟨hdate, hrange⟩)]
  rfl

/-- The year of the moment is written with four digits. -/
def HasFourDigitYear (time : ℤ) : Prop :=
  0 ≤ (Date.ofDayNumber (time / millisPerDay)).year ∧
    (Date.ofDayNumber (time / millisPerDay)).year ≤ 9999

instance (time : ℤ) : Decidable (HasFourDigitYear time) :=
  inferInstanceAs (Decidable (_ ∧ _))

theorem millisOfDay_parts (millis : ℕ) :
    millisOfDay (millis / 3600000) (millis / 60000 % 60) (millis / 1000 % 60)
      (millis % 1000 * 1000 * 1000) = millis := by
  unfold millisOfDay
  omega

/-- **A moment that was written** is read back, to the millisecond. -/
theorem readTimestamp_writeTimestamp {time : ℤ} (h : HasFourDigitYear time) :
    readTimestamp (writeTimestamp time) = .ok time := by
  obtain ⟨hlow, hhigh⟩ := h
  have hmillis : 0 ≤ time % millisPerDay ∧ time % millisPerDay < 86400000 := by
    unfold millisPerDay
    omega
  have hdate := Date.exists_ofDayNumber (time / millisPerDay)
  have hnumber := Date.dayNumber_ofDayNumber (time / millisPerDay)
  simp only [writeTimestamp, dateText, timeText, writeDate, writeTime, List.append_assoc,
    List.cons_append]
  generalize hd : Date.ofDayNumber (time / millisPerDay) = d at *
  have hyear : (⟨(d.year.toNat : ℤ), d.month, d.day⟩ : Date) = d := by
    rw [Int.toNat_of_nonneg hlow]
  rw [readTimestamp_padded (by omega) (hyear.symm ▸ hdate) (by omega) (by omega) (by omega)
    (by omega), hyear, hnumber, millisOfDay_parts, Int.toNat_of_nonneg hmillis.1,
    Int.mul_comm, Int.mul_ediv_add_emod]

/-! ### Words -/

theorem dateText_ne_nil (time : ℤ) : dateText time ≠ [] :=
  List.append_ne_nil_of_right_ne_nil _ (List.cons_ne_nil _ _)

theorem timeText_ne_nil (time : ℤ) : timeText time ≠ [] :=
  List.append_ne_nil_of_right_ne_nil _ (List.cons_ne_nil _ _)

theorem isBlank_of_mem_dateText {time : ℤ} {c : Char} (h : c ∈ dateText time) :
    isBlank c = false := by
  simp only [dateText, writeDate, List.mem_append, List.mem_cons] at h
  rcases h with (h | rfl | h) | rfl | h
  · exact isBlank_of_isDigit (isDigit_of_mem_padded h)
  · decide
  · exact isBlank_of_isDigit (isDigit_of_mem_padded h)
  · decide
  · exact isBlank_of_isDigit (isDigit_of_mem_padded h)

theorem isBlank_of_mem_timeText {time : ℤ} {c : Char} (h : c ∈ timeText time) :
    isBlank c = false := by
  simp only [timeText, writeTime, List.mem_append, List.mem_cons] at h
  rcases h with ((h | rfl | h) | rfl | h) | rfl | h
  · exact isBlank_of_isDigit (isDigit_of_mem_padded h)
  · decide
  · exact isBlank_of_isDigit (isDigit_of_mem_padded h)
  · decide
  · exact isBlank_of_isDigit (isDigit_of_mem_padded h)
  · decide
  · exact isBlank_of_isDigit (isDigit_of_mem_padded h)

end Calendar

end ReplicaTrace
