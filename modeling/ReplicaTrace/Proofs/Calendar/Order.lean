import Mathlib.Data.List.Forall2
import ReplicaTrace.Proofs.Calendar.Moments
import ReplicaTrace.Text.Order

/-!
# The order of time stamps

Time stamps that are written with all their digits stand in the order of their texts: the text that
comes first is that of the earlier moment, or of the same one.  The digits after the third of the
fraction do not count, and all others do.  Such a text is read exactly if its date is one of the
calendar and its hour and minute are those of a day.

* `dayNumber_lt_of_year_lt`, `dayNumber_lt_of_month_lt` : the order of dates.
* `compareText_padded_append` : numbers with zeros in front are compared as numbers.
* `Fits`, `Stamp` : texts of the form of a time stamp, and their numbers.
* `readTimestamp_text_eq_ok_iff` : which of them are read.
* `agrees_millis` : moments are in the order of their texts.
* `readTimestamp_ordered` : all of this for what is read.
-/

namespace ReplicaTrace

namespace Calendar

open Text

/-! ### The order of dates -/

theorem daysBeforeYear_le {year year' : ℤ} (h : year ≤ year') :
    daysBeforeYear year ≤ daysBeforeYear year' := by
  unfold daysBeforeYear
  omega

theorem daysBeforeMonth_le {leap : Bool} {month month' : ℕ} (h : month ≤ month')
    (h₁ : 1 ≤ month) (h₁₃ : month' ≤ 13) :
    daysBeforeMonth leap month ≤ daysBeforeMonth leap month' := by
  have table : ∀ leap, ∀ m m' : Fin 14, 1 ≤ m.val → m ≤ m' →
      daysBeforeMonth leap m ≤ daysBeforeMonth leap m' := by decide
  exact table leap ⟨month, by omega⟩ ⟨month', by omega⟩ h₁ h

namespace Date

variable {d d' : Date}

/-- The days of a date's month that are over lead to the next month at most. -/
theorem day_le_of_exists (h : d.Exists) :
    daysBeforeMonth (isLeap d.year) d.month + d.day ≤
      daysBeforeMonth (isLeap d.year) (d.month + 1) := by
  rw [daysBeforeMonth_succ h.1 h.2.1]
  exact Nat.add_le_add_left h.2.2.2 _

/-- A date lies between the start of its year and that of the next one. -/
theorem dayNumber_bounds (h : d.Exists) :
    daysBeforeYear d.year - epoch ≤ d.dayNumber ∧
      d.dayNumber < daysBeforeYear (d.year + 1) - epoch := by
  have hday := day_le_of_exists h
  have hyear : daysBeforeMonth (isLeap d.year) (d.month + 1) ≤
      daysBeforeMonth (isLeap d.year) 13 :=
    daysBeforeMonth_le (Nat.succ_le_succ h.2.1) (Nat.succ_pos _) (Nat.le_refl _)
  have hlength : (daysBeforeMonth (isLeap d.year) 13 : ℤ) =
      365 + if isLeap d.year then 1 else 0 := by
    cases isLeap d.year <;> rfl
  have hfirst := h.2.2.1
  rw [daysBeforeYear_succ, dayNumber]
  omega

/-- **The year counts first.** -/
theorem dayNumber_lt_of_year_lt (h : d.Exists) (h' : d'.Exists) (hlt : d.year < d'.year) :
    d.dayNumber < d'.dayNumber := by
  have hnext := daysBeforeYear_le (Int.add_one_le_iff.2 hlt)
  have hlow := (dayNumber_bounds h').1
  have hhigh := (dayNumber_bounds h).2
  omega

/-- **In one year the month counts first.** -/
theorem dayNumber_lt_of_month_lt (h : d.Exists) (h' : d'.Exists) (hyear : d.year = d'.year)
    (hlt : d.month < d'.month) : d.dayNumber < d'.dayNumber := by
  have hday := day_le_of_exists h
  have hmonth : daysBeforeMonth (isLeap d.year) (d.month + 1) ≤
      daysBeforeMonth (isLeap d.year) d'.month :=
    daysBeforeMonth_le hlt (Nat.succ_pos _) (Nat.le_succ_of_le h'.2.1)
  have hfirst := h'.2.2.1
  rw [dayNumber, dayNumber, ← hyear]
  omega

end Date

/-! ### The order of digits -/

theorem compare_add_left (k i i' : ℕ) : compare (k + i) (k + i') = compare i i' := by
  simp [Nat.compare_eq_ite_lt]

/-- One digit more: the digits before it count first. -/
theorem compare_digit {a a' i i' : ℕ} (hi : i < 10) (hi' : i' < 10) :
    compare (a * 10 + i) (a' * 10 + i') = (compare a a').then (compare i i') := by
  rcases Nat.lt_trichotomy a a' with h | rfl | h
  · rw [Nat.compare_eq_lt.2 h, Nat.compare_eq_lt.2 (by omega)]
    rfl
  · rw [Nat.compare_eq_eq.2 rfl, compare_add_left]
    rfl
  · rw [Nat.compare_eq_gt.2 h, Nat.compare_eq_gt.2 (by omega)]
    rfl

theorem compareText_append {as bs : List Char} (h : as.length = bs.length) (xs ys : List Char) :
    compareText (as ++ xs) (bs ++ ys) = (compareText as bs).then (compareText xs ys) := by
  induction as generalizing bs with
  | nil =>
    obtain rfl := List.length_eq_zero_iff.1 h.symm
    rfl
  | cons a as ih =>
    cases bs with
    | nil => cases h
    | cons b bs =>
      rw [List.cons_append, List.cons_append, compareText, compareText, ih (Nat.succ.inj h),
        Ordering.then_assoc]

theorem compareText_cons_self (c : Char) (xs ys : List Char) :
    compareText (c :: xs) (c :: ys) = compareText xs ys := by
  rw [compareText, Nat.compare_eq_eq.2 rfl, Ordering.then]

/-- Digits after numbers: equally many of them are compared by the numbers that result. -/
theorem compare_digitsValue {ds es : List Char} (h : ds.length = es.length)
    (hds : ∀ c ∈ ds, c.isDigit = true) (hes : ∀ c ∈ es, c.isDigit = true) (a a' : ℕ) :
    compare (digitsValue a ds) (digitsValue a' es) = (compare a a').then (compareText ds es) := by
  induction ds generalizing es a a' with
  | nil =>
    obtain rfl := List.length_eq_zero_iff.1 h.symm
    rw [digitsValue_nil, digitsValue_nil, compareText, Ordering.then_eq]
  | cons c ds ih =>
    cases es with
    | nil => cases h
    | cons e es =>
      rw [List.forall_mem_cons] at hds hes
      have hc : 48 ≤ c.toNat ∧ c.toNat ≤ 57 := Char.isDigit_iff_toNat.1 hds.1
      have he : 48 ≤ e.toNat ∧ e.toNat ≤ 57 := Char.isDigit_iff_toNat.1 hes.1
      have hvalue : compare (digitValue c) (digitValue e) = compare c.toNat e.toNat := by
        have hc' : c.toNat = 48 + digitValue c := by unfold digitValue; omega
        have he' : e.toNat = 48 + digitValue e := by unfold digitValue; omega
        rw [hc', he', compare_add_left]
      rw [digitsValue_cons, digitsValue_cons, ih (Nat.succ.inj h) hds.2 hes.2,
        compare_digit (digitChar_digitValue hds.1).1 (digitChar_digitValue hes.1).1, hvalue,
        compareText, Ordering.then_assoc]

variable {width n n' : ℕ} {xs ys ds : List Char}

/-- **Numbers with zeros in front** are compared as numbers. -/
theorem compareText_padded_append (hwidth : 0 < width) (h : n < 10 ^ width) (h' : n' < 10 ^ width) :
    compareText (padded width n ++ xs) (padded width n' ++ ys) =
      (compare n n').then (compareText xs ys) := by
  have hlength : (padded width n).length = (padded width n').length := by
    rw [length_padded hwidth h, length_padded hwidth h']
  have hdigits := compare_digitsValue hlength (fun _ => isDigit_of_mem_padded)
    (fun _ => isDigit_of_mem_padded) 0 0
  rw [digitsValue_padded, digitsValue_padded] at hdigits
  rw [compareText_append hlength, hdigits]
  rfl

theorem compareText_padded (hwidth : 0 < width) (h : n < 10 ^ width) (h' : n' < 10 ^ width) :
    compareText (padded width n) (padded width n') = compare n n' := by
  have h : compareText (padded width n ++ []) (padded width n' ++ []) = _ :=
    compareText_padded_append hwidth h h'
  rwa [List.append_nil, List.append_nil, compareText, Ordering.then_eq] at h

theorem digitsValue_lt (hds : ∀ c ∈ ds, c.isDigit = true) : digitsValue 0 ds < 10 ^ ds.length := by
  induction ds using List.reverseRecOn with
  | nil => exact Nat.one_pos
  | append_singleton ds c ih =>
    have hc := (digitChar_digitValue (hds c (by simp))).1
    have hlt := ih fun x hx => hds x (List.mem_append_left _ hx)
    rw [digitsValue_concat, List.length_append, List.length_singleton, Nat.pow_succ]
    omega

/-- Digits are their number with zeros in front. -/
theorem eq_padded (hne : ds ≠ []) (hds : ∀ c ∈ ds, c.isDigit = true) :
    ds = padded ds.length (digitsValue 0 ds) := by
  have hlength := length_padded (List.length_pos_iff.2 hne) (digitsValue_lt hds)
  have hdigits := compare_digitsValue hlength.symm hds (fun _ => isDigit_of_mem_padded) 0 0
  rw [digitsValue_padded, Nat.compare_eq_eq.2 rfl] at hdigits
  exact compareText_eq_iff.1 hdigits.symm

theorem digitsValue_eq_add (a : ℕ) (ds : List Char) :
    digitsValue a ds = a * 10 ^ ds.length + digitsValue 0 ds := by
  induction ds using List.reverseRecOn with
  | nil => simp
  | append_singleton ds c ih =>
    rw [digitsValue_concat, digitsValue_concat, ih, List.length_append, List.length_singleton,
      Nat.pow_succ, Nat.add_mul, Nat.mul_assoc, Nat.add_assoc]

/-- Six digits are three and three. -/
theorem padded_six (hn : n < 10 ^ 6) : padded 6 n = padded 3 (n / 1000) ++ padded 3 (n % 1000) := by
  have hfirst : (padded 3 (n / 1000)).length = 3 := length_padded (by decide) (by omega)
  have hlast : (padded 3 (n % 1000)).length = 3 := length_padded (by decide) (by omega)
  have hdigits : ∀ c ∈ padded 3 (n / 1000) ++ padded 3 (n % 1000), c.isDigit = true := by
    intro c hc
    exact (List.mem_append.1 hc).elim isDigit_of_mem_padded isDigit_of_mem_padded
  have hvalue : digitsValue 0 (padded 3 (n / 1000) ++ padded 3 (n % 1000)) = n := by
    rw [digitsValue, List.foldl_append, ← digitsValue, ← digitsValue, digitsValue_padded,
      digitsValue_eq_add, digitsValue_padded, hlast]
    omega
  have hne : padded 3 (n / 1000) ++ padded 3 (n % 1000) ≠ [] := by
    rw [← List.length_pos_iff, List.length_append]
    omega
  have hpadded := eq_padded hne hdigits
  rw [hvalue, List.length_append, hfirst, hlast] at hpadded
  exact hpadded.symm

/-! ### Texts with all digits -/

/-- The character may stand where the sample has the other one: a digit up to it, or the same. -/
def FitsChar (c sample : Char) : Prop :=
  if sample.isDigit then c.isDigit = true ∧ c.toNat ≤ sample.toNat else c = sample

instance : DecidableRel FitsChar := fun _ _ => inferInstanceAs (Decidable (ite _ _ _))

/-- The text has the form of the sample, whose digits are the greatest ones that are allowed. -/
def Fits (cs sample : List Char) : Prop :=
  List.Forall₂ FitsChar cs sample

instance (cs sample : List Char) : Decidable (Fits cs sample) :=
  inferInstanceAs (Decidable (List.Forall₂ ..))

/-- The form of a time stamp with all its digits, without the second `60`. -/
def stampSample : List Char :=
  "9999/99/99 99:99:59.999999".toList

theorem digitsValue_le_of_fits {cs sample : List Char} (h : Fits cs sample)
    (hsample : ∀ c ∈ sample, c.isDigit = true) {a a' : ℕ} (ha : a ≤ a') :
    (∀ c ∈ cs, c.isDigit = true) ∧ digitsValue a cs ≤ digitsValue a' sample := by
  induction h generalizing a a' with
  | nil => exact ⟨by simp, ha⟩
  | cons hc _ ih =>
    rw [List.forall_mem_cons] at hsample
    rw [FitsChar, if_pos hsample.1] at hc
    have hnext : _ * 10 + digitValue _ ≤ _ * 10 + digitValue _ :=
      Nat.add_le_add (Nat.mul_le_mul_right 10 ha) (Nat.sub_le_sub_right hc.2 _)
    obtain ⟨hdigits, hle⟩ := ih hsample.2 hnext
    exact ⟨List.forall_mem_cons.2 ⟨hc.1, hdigits⟩, hle⟩

/-- Where the sample has digits, the text has a number. -/
theorem exists_padded_of_fits {cs sample : List Char} (h : Fits cs sample) (hne : sample ≠ [])
    (hsample : ∀ c ∈ sample, c.isDigit = true) :
    ∃ n ≤ digitsValue 0 sample, cs = padded sample.length n := by
  obtain ⟨hdigits, hle⟩ := digitsValue_le_of_fits h hsample (Nat.le_refl 0)
  have hlength : cs.length = sample.length := h.length_eq
  have hcs : cs ≠ [] := by
    rw [← List.length_pos_iff, hlength]
    exact List.length_pos_iff.2 hne
  exact ⟨_, hle, hlength ▸ eq_padded hcs hdigits⟩

/-- A number, a sign and the rest. -/
theorem exists_of_fits_append {cs rest : List Char} (sample : List Char) (sign : Char)
    (h : Fits cs (sample ++ sign :: rest)) (hne : sample ≠ [])
    (hsample : ∀ c ∈ sample, c.isDigit = true) (hsign : sign.isDigit = false) :
    ∃ n ≤ digitsValue 0 sample, ∃ cs', cs = padded sample.length n ++ sign :: cs' ∧
      Fits cs' rest := by
  obtain ⟨n, hle, hfirst⟩ := exists_padded_of_fits (List.forall₂_take_append _ _ _ h) hne hsample
  obtain ⟨c, cs', hc, hrest, hdrop⟩ :=
    List.forall₂_cons_right_iff.1 (List.forall₂_drop_append _ _ _ h)
  rw [FitsChar, if_neg (by simp [hsign])] at hc
  refine ⟨n, hle, cs', ?_, hrest⟩
  rw [← hfirst, ← hc, ← hdrop, List.take_append_drop]

/-- The numbers of a time stamp with all its digits, as far as the digits go. -/
structure Stamp where
  /-- The year. -/
  year : ℕ
  /-- The month. -/
  month : ℕ
  /-- The day. -/
  day : ℕ
  /-- The hour. -/
  hour : ℕ
  /-- The minute. -/
  minute : ℕ
  /-- The second. -/
  second : ℕ
  /-- The fraction, in millionths. -/
  micros : ℕ
  year_lt : year < 10 ^ 4
  month_lt : month < 10 ^ 2
  day_lt : day < 10 ^ 2
  hour_lt : hour < 10 ^ 2
  minute_lt : minute < 10 ^ 2
  second_lt : second < 60
  micros_lt : micros < 10 ^ 6

namespace Stamp

variable (s : Stamp)

/-- The date, whether it is one of the calendar or not. -/
def date : Date :=
  ⟨s.year, s.month, s.day⟩

/-- The date and the time of day before the fraction, and what follows them. -/
def textBefore (rest : List Char) : List Char :=
  padded 4 s.year ++ '/' :: (padded 2 s.month ++ '/' :: (padded 2 s.day ++ ' ' ::
    (padded 2 s.hour ++ ':' :: (padded 2 s.minute ++ ':' :: (padded 2 s.second ++ '.' :: rest)))))

/-- The time stamp. -/
def text : List Char :=
  s.textBefore (padded 6 s.micros)

theorem second_lt' : s.second < 10 ^ 2 :=
  Nat.lt_trans s.second_lt (by decide)

/-- The thousandths of the fraction have three digits. -/
theorem thousandths_lt : s.micros / 1000 < 10 ^ 3 :=
  Nat.div_lt_of_lt_mul s.micros_lt

/-- **A text of the form of a time stamp** is one with some numbers. -/
theorem exists_of_fits {cs : List Char} (h : Fits cs stampSample) : ∃ s : Stamp, cs = s.text := by
  have hfour : ∀ c ∈ "9999".toList, c.isDigit = true := List.all_eq_true.1 rfl
  have htwo : ∀ c ∈ "99".toList, c.isDigit = true := List.all_eq_true.1 rfl
  have hsixty : ∀ c ∈ "59".toList, c.isDigit = true := List.all_eq_true.1 rfl
  have hsix : ∀ c ∈ "999999".toList, c.isDigit = true := List.all_eq_true.1 rfl
  obtain ⟨year, hyear, _, rfl, hrest₁⟩ :=
    exists_of_fits_append "9999".toList '/' h (by decide) hfour rfl
  obtain ⟨month, hmonth, _, rfl, hrest₂⟩ :=
    exists_of_fits_append "99".toList '/' hrest₁ (by decide) htwo rfl
  obtain ⟨day, hday, _, rfl, hrest₃⟩ :=
    exists_of_fits_append "99".toList ' ' hrest₂ (by decide) htwo rfl
  obtain ⟨hour, hhour, _, rfl, hrest₄⟩ :=
    exists_of_fits_append "99".toList ':' hrest₃ (by decide) htwo rfl
  obtain ⟨minute, hminute, _, rfl, hrest₅⟩ :=
    exists_of_fits_append "99".toList ':' hrest₄ (by decide) htwo rfl
  obtain ⟨second, hsecond, _, rfl, hrest₆⟩ :=
    exists_of_fits_append "59".toList '.' hrest₅ (by decide) hsixty rfl
  obtain ⟨micros, hmicros, rfl⟩ := exists_padded_of_fits hrest₆ (by decide) hsix
  exact ⟨⟨year, month, day, hour, minute, second, micros, Nat.lt_succ_of_le hyear,
    Nat.lt_succ_of_le hmonth, Nat.lt_succ_of_le hday, Nat.lt_succ_of_le hhour,
    Nat.lt_succ_of_le hminute, Nat.lt_succ_of_le hsecond, Nat.lt_succ_of_le hmicros⟩, rfl⟩

end Stamp

/-! ### Which time stamps are read -/

theorem takeField_padded_eq_ok_iff {low high n : ℕ} (hn : n < 100) {r : ℕ × List Char} :
    takeField low high (padded 2 n ++ xs) = .ok r ↔ (low ≤ n ∧ n ≤ high) ∧ r = (n, xs) := by
  have hmax : n ≤ maxItem := by unfold maxItem; omega
  rw [takeField, trimStart_padded,
    takeNumber_padded (by decide) (by omega) hmax (Nat.le_refl 2) (.inl rfl)]
  change (if low ≤ n ∧ n ≤ high then Except.ok (n, xs) else .error TimestampError.outOfRange) =
    .ok r ↔ _
  split
  · next h => simp [h, eq_comm]
  · next h => simp [h]

variable {year month day : ℕ}

/-- What is read starts with a date of the calendar; an hour and a minute of the day follow it. -/
theorem exists_of_readTimestamp_date (hyear : year < 10000) (hmonth : month < 100)
    (hday : day < 100) {x : ℤ}
    (h : readTimestamp (padded 4 year ++ '/' :: (padded 2 month ++ '/' :: (padded 2 day ++ xs))) =
      .ok x) :
    Date.Exists ⟨year, month, day⟩ ∧ ∃ r, takeField 0 23 xs = .ok r ∧
      ∃ cs, takeChar ':' r.2 = .ok cs ∧ ∃ r', takeField 0 59 cs = .ok r' := by
  rw [readTimestamp] at h
  obtain ⟨_, htake, h⟩ := except_bind_eq_ok_iff.1 h
  obtain rfl := Except.ok.inj ((takeYear_padded hyear).symm.trans htake)
  obtain ⟨_, htake, h⟩ := except_bind_eq_ok_iff.1 h
  obtain rfl := Except.ok.inj ((takeChar_self '/').symm.trans htake)
  obtain ⟨_, htake, h⟩ := except_bind_eq_ok_iff.1 h
  obtain ⟨-, rfl⟩ := (takeField_padded_eq_ok_iff hmonth).1 htake
  obtain ⟨_, htake, h⟩ := except_bind_eq_ok_iff.1 h
  obtain rfl := Except.ok.inj ((takeChar_self '/').symm.trans htake)
  obtain ⟨_, htake, h⟩ := except_bind_eq_ok_iff.1 h
  obtain ⟨-, rfl⟩ := (takeField_padded_eq_ok_iff hday).1 htake
  obtain ⟨r, hhour, h⟩ := except_bind_eq_ok_iff.1 h
  obtain ⟨cs, hcolon, h⟩ := except_bind_eq_ok_iff.1 h
  obtain ⟨r', hminute, h⟩ := except_bind_eq_ok_iff.1 h
  refine ⟨?_, r, hhour, cs, hcolon, r', hminute⟩
  -- the date is looked at last, after what is left of the time of day
  obtain ⟨_, -, h⟩ := except_bind_eq_ok_iff.1 h
  obtain ⟨_, -, h⟩ := except_bind_eq_ok_iff.1 h
  obtain ⟨_, -, h⟩ := except_bind_eq_ok_iff.1 h
  dsimp only at h
  split at h
  · cases h
  · split at h
    · cases h
    · next hdate => exact (not_not.1 hdate).1

namespace Stamp

variable (s s' : Stamp)

/-- The milliseconds that the numbers stand for. -/
def millis : ℤ :=
  s.date.dayNumber * millisPerDay + millisOfDay s.hour s.minute s.second (s.micros * 1000)

/-- The numbers are those of a moment. -/
def IsMoment : Prop :=
  s.date.Exists ∧ s.hour ≤ 23 ∧ s.minute ≤ 59

/-- **A time stamp is read** exactly if its numbers are those of a moment, and as that moment. -/
theorem readTimestamp_text_eq_ok_iff {x : ℤ} :
    readTimestamp s.text = .ok x ↔ s.IsMoment ∧ x = s.millis := by
  have hread (h : s.IsMoment) : readTimestamp s.text = .ok s.millis :=
    readTimestamp_padded s.year_lt h.1 h.2.1 h.2.2 (Nat.le_of_lt s.second_lt) s.micros_lt
  constructor
  · intro h
    obtain ⟨hdate, r, htake, cs, hcolon, r', htake'⟩ :=
      exists_of_readTimestamp_date s.year_lt s.month_lt s.day_lt h
    rw [takeField_blank] at htake
    obtain ⟨hhour, rfl⟩ := (takeField_padded_eq_ok_iff s.hour_lt).1 htake
    obtain rfl := Except.ok.inj ((takeChar_self ':').symm.trans hcolon)
    obtain ⟨hminute, -⟩ := (takeField_padded_eq_ok_iff s.minute_lt).1 htake'
    have hmoment : s.IsMoment := ⟨hdate, hhour.2, hminute.2⟩
    exact ⟨hmoment, Except.ok.inj (h.symm.trans (hread hmoment))⟩
  · rintro ⟨h, rfl⟩
    exact hread h

end Stamp

/-! ### The order of time stamps -/

/-- The numbers stand in this order. -/
def Agrees (o : Ordering) (x x' : ℤ) : Prop :=
  match o with
  | .lt => x < x'
  | .eq => x = x'
  | .gt => x' < x

/-- What counts first decides, if it differs. -/
theorem agrees_then {a a' : ℕ} {o : Ordering} {x x' : ℤ} (hlt : a < a' → x < x')
    (hgt : a' < a → x' < x) (heq : a = a' → Agrees o x x') :
    Agrees ((compare a a').then o) x x' := by
  rcases Nat.lt_trichotomy a a' with h | h | h
  · rw [Nat.compare_eq_lt.2 h]
    exact hlt h
  · rw [Nat.compare_eq_eq.2 h]
    exact heq h
  · rw [Nat.compare_eq_gt.2 h]
    exact hgt h

/-- What counts last decides. -/
theorem agrees_compare {a a' : ℕ} {x x' : ℤ} (hlt : a < a' → x < x') (hgt : a' < a → x' < x)
    (heq : a = a' → x = x') : Agrees (compare a a') x x' := by
  have h := agrees_then (o := .eq) hlt hgt heq
  rwa [Ordering.then_eq] at h

namespace Stamp

variable {s s' : Stamp}

theorem millis_lt_of_dayNumber_lt (h : s.IsMoment) (hlt : s.date.dayNumber < s'.date.dayNumber) :
    s.millis < s'.millis := by
  have hhour := h.2.1
  have hminute := h.2.2
  have hsecond := s.second_lt
  have hmicros := s.micros_lt
  simp only [millis, millisOfDay, millisPerDay]
  omega

/-- Up to the third digit of the fraction, time stamps are compared by their numbers. -/
theorem compareText_textBefore (s s' : Stamp) :
    compareText (s.textBefore (padded 3 (s.micros / 1000)))
        (s'.textBefore (padded 3 (s'.micros / 1000))) =
      (compare s.year s'.year).then ((compare s.month s'.month).then
        ((compare s.day s'.day).then ((compare s.hour s'.hour).then
          ((compare s.minute s'.minute).then ((compare s.second s'.second).then
            (compare (s.micros / 1000) (s'.micros / 1000))))))) := by
  rw [textBefore, textBefore,
    compareText_padded_append (by decide) s.year_lt s'.year_lt, compareText_cons_self,
    compareText_padded_append (by decide) s.month_lt s'.month_lt, compareText_cons_self,
    compareText_padded_append (by decide) s.day_lt s'.day_lt, compareText_cons_self,
    compareText_padded_append (by decide) s.hour_lt s'.hour_lt, compareText_cons_self,
    compareText_padded_append (by decide) s.minute_lt s'.minute_lt, compareText_cons_self,
    compareText_padded_append (by decide) s.second_lt' s'.second_lt', compareText_cons_self,
    compareText_padded (by decide) s.thousandths_lt s'.thousandths_lt]

/-- **Moments are in the order of their time stamps** up to the third digit of the fraction. -/
theorem agrees_millis (h : s.IsMoment) (h' : s'.IsMoment) :
    Agrees (compareText (s.textBefore (padded 3 (s.micros / 1000)))
      (s'.textBefore (padded 3 (s'.micros / 1000)))) s.millis s'.millis := by
  rw [compareText_textBefore]
  refine agrees_then
    (fun hlt => millis_lt_of_dayNumber_lt h
      (Date.dayNumber_lt_of_year_lt h.1 h'.1 (Int.ofNat_lt.2 hlt)))
    (fun hlt => millis_lt_of_dayNumber_lt h'
      (Date.dayNumber_lt_of_year_lt h'.1 h.1 (Int.ofNat_lt.2 hlt)))
    fun hyear => ?_
  have hyear' : s.date.year = s'.date.year := congrArg Int.ofNat hyear
  refine agrees_then
    (fun hlt => millis_lt_of_dayNumber_lt h (Date.dayNumber_lt_of_month_lt h.1 h'.1 hyear' hlt))
    (fun hlt => millis_lt_of_dayNumber_lt h'
      (Date.dayNumber_lt_of_month_lt h'.1 h.1 hyear'.symm hlt))
    fun hmonth => ?_
  -- in one month, everything else is counted on from its start
  have hstart : s.date.dayNumber - s.day = s'.date.dayNumber - s'.day := by
    simp only [date, Date.dayNumber, hyear, hmonth]
    omega
  have hclock := And.intro h.2 h'.2
  have hseconds := And.intro s.second_lt s'.second_lt
  have hthousandths := And.intro s.thousandths_lt s'.thousandths_lt
  refine agrees_then (fun hlt => millis_lt_of_dayNumber_lt h (by omega))
    (fun hlt => millis_lt_of_dayNumber_lt h' (by omega)) fun hday => ?_
  have hnumber : s.date.dayNumber = s'.date.dayNumber := by omega
  simp only [millis, millisOfDay, hnumber]
  refine agrees_then (fun hlt => by omega) (fun hlt => by omega) fun hhour => ?_
  refine agrees_then (fun hlt => by omega) (fun hlt => by omega) fun hminute => ?_
  refine agrees_then (fun hlt => by omega) (fun hlt => by omega) fun hsecond => ?_
  exact agrees_compare (fun hlt => by omega) (fun hlt => by omega) fun hmicros => by omega

theorem text_eq (s : Stamp) :
    s.text = s.textBefore (padded 3 (s.micros / 1000)) ++ padded 3 (s.micros % 1000) := by
  rw [text, padded_six s.micros_lt]
  simp only [textBefore, List.append_assoc, List.cons_append]

/-- The text up to the third digit of the fraction. -/
theorem length_textBefore (s : Stamp) :
    (s.textBefore (padded 3 (s.micros / 1000))).length = 23 := by
  simp only [textBefore, List.length_append, List.length_cons,
    length_padded (Nat.succ_pos 3) s.year_lt, length_padded Nat.two_pos s.month_lt,
    length_padded Nat.two_pos s.day_lt, length_padded Nat.two_pos s.hour_lt,
    length_padded Nat.two_pos s.minute_lt, length_padded Nat.two_pos s.second_lt',
    length_padded (Nat.succ_pos 2) s.thousandths_lt]

theorem take_text (s : Stamp) :
    s.text.take 23 = s.textBefore (padded 3 (s.micros / 1000)) := by
  rw [text_eq, ← length_textBefore s, List.take_left]

/-- **Moments are in the order of their time stamps**, and equal up to the digits that do not
count. -/
theorem millis_le_and_eq_iff (h : s.IsMoment) (h' : s'.IsMoment) :
    ((compareText s.text s'.text).isLE = true → s.millis ≤ s'.millis) ∧
      (s.millis = s'.millis ↔ s.text.take 23 = s'.text.take 23) := by
  have hagrees := agrees_millis h h'
  have hlength := (length_textBefore s).trans (length_textBefore s').symm
  rw [take_text, take_text, ← compareText_eq_iff, text_eq, text_eq, compareText_append hlength]
  cases hhead : compareText (s.textBefore (padded 3 (s.micros / 1000)))
    (s'.textBefore (padded 3 (s'.micros / 1000))) <;> rw [hhead] at hagrees
  · exact ⟨fun _ => Int.le_of_lt hagrees, by simp [Int.ne_of_lt hagrees]⟩
  · exact ⟨fun _ => Int.le_of_eq hagrees, by simp [show s.millis = s'.millis from hagrees]⟩
  · exact ⟨fun hle => (nomatch hle), by simp [Int.ne_of_gt hagrees]⟩

end Stamp

variable {d : Date}

/-- **A date that is not one of the calendar** is not read, whatever follows it. -/
theorem exists_readTimestamp_eq_error (hlow : 0 ≤ d.year) (hhigh : d.year ≤ 9999)
    (hmonth : d.month ≤ 99) (hday : d.day ≤ 99) (hdate : ¬ d.Exists) (time : List Char) :
    ∃ e, readTimestamp (writeDate d ++ ' ' :: time) = .error e := by
  cases hread : readTimestamp (writeDate d ++ ' ' :: time) with
  | error e => exact ⟨e, rfl⟩
  | ok x =>
    rw [writeDate, List.append_assoc, List.append_assoc, List.cons_append,
      List.cons_append] at hread
    have hexists := (exists_of_readTimestamp_date (by omega) (by omega) (by omega) hread).1
    have hyear : ((d.year.toNat : ℕ) : ℤ) = d.year := Int.toNat_of_nonneg hlow
    rw [hyear] at hexists
    exact absurd hexists hdate

/-- **Time stamps keep their order.**  Of two that are read, the one that comes first as a text is
not later, and they are the same moment exactly if they agree up to the third digit of the fraction.
A text with all digits of a time stamp is read exactly if its date is one of the calendar and its
hour and minute are those of a day; other dates are not read with any time of day. -/
theorem readTimestamp_ordered :
    (∀ (cs cs' : List Char) (x x' : ℤ), Fits cs stampSample → Fits cs' stampSample →
      readTimestamp cs = .ok x → readTimestamp cs' = .ok x' →
        ((compareText cs cs').isLE = true → x ≤ x') ∧ (x = x' ↔ cs.take 23 = cs'.take 23)) ∧
    (∀ cs : List Char, Fits cs stampSample → ∃ s : Stamp, cs = s.text ∧
      ∀ x, readTimestamp cs = .ok x ↔ s.IsMoment ∧ x = s.millis) ∧
    ∀ (d : Date) (time : List Char), 0 ≤ d.year → d.year ≤ 9999 → d.month ≤ 99 → d.day ≤ 99 →
      ¬ d.Exists → ∃ e, readTimestamp (writeDate d ++ ' ' :: time) = .error e := by
  refine ⟨fun cs cs' x x' hfits hfits' hread hread' => ?_, fun cs hfits => ?_,
    fun d time hlow hhigh hmonth hday hdate =>
      exists_readTimestamp_eq_error hlow hhigh hmonth hday hdate time⟩
  · obtain ⟨s, rfl⟩ := Stamp.exists_of_fits hfits
    obtain ⟨s', rfl⟩ := Stamp.exists_of_fits hfits'
    obtain ⟨hmoment, rfl⟩ := s.readTimestamp_text_eq_ok_iff.1 hread
    obtain ⟨hmoment', rfl⟩ := s'.readTimestamp_text_eq_ok_iff.1 hread'
    exact Stamp.millis_le_and_eq_iff hmoment hmoment'
  · obtain ⟨s, rfl⟩ := Stamp.exists_of_fits hfits
    exact ⟨s, rfl, fun x => s.readTimestamp_text_eq_ok_iff⟩

/-- The last moment of 1969 and the first one of 1970, and a day that is missing in 2023. -/
theorem readTimestamp_ordered_epoch :
    (∃ x x' : ℤ, readTimestamp "1969/12/31 23:59:59.999999".toList = .ok x ∧
      readTimestamp "1970/01/01 00:00:00.000001".toList = .ok x' ∧ x ≤ x' ∧ x ≠ x') ∧
    ∃ e, readTimestamp "2023/02/29 12:00:00.000000".toList = .error e := by
  have hread : readTimestamp "1969/12/31 23:59:59.999999".toList = .ok (-1) := by decide
  have hread' : readTimestamp "1970/01/01 00:00:00.000001".toList = .ok 0 := by decide
  have h := readTimestamp_ordered.1 _ _ _ _ (by decide) (by decide) hread hread'
  refine ⟨⟨_, _, hread, hread', h.1 (by decide), h.2.not.2 (by decide)⟩, ?_⟩
  exact readTimestamp_ordered.2.2 ⟨2023, 2, 29⟩ "12:00:00.000000".toList (by decide) (by decide)
    (by decide) (by decide) (by decide)

end Calendar

end ReplicaTrace
