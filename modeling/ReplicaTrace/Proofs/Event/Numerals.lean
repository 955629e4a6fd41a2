import Mathlib.Algebra.Ring.Int.Defs
import Mathlib.Algebra.Ring.Nat
import ReplicaTrace.Event.OfLine
import ReplicaTrace.Proofs.Text.Numbers

/-!
# The texts that are slots and ballots

A slot is an unsigned numeral below `2^64`.  A ballot is a text with three parts between points or
more, the third of which is a signed numeral from `-2^63` to `2^63 - 1`; the other parts may be
anything.  Every other text is a fault of the format, which names the field and repeats the text.

* `getElem?_splitOn_iff` : the parts between points.
* `readSlot_eq_ok_iff`, `readBallot_eq_ok_iff` : the texts that are read.
* `readSlot_readBallot_exact` : what becomes of every text, and of numbers that were written.
-/

namespace ReplicaTrace

namespace Text

variable {cs part : List Char} {n : ℕ} {i : ℤ}

/-- The text is a numeral with the given value, with a plus sign or none. -/
def IsUnsigned (cs : List Char) (n : ℕ) : Prop :=
  ∃ ds, (cs = ds ∨ cs = '+' :: ds) ∧ IsNumeral ds n

/-- The text is a numeral with the given value, with a sign or none. -/
def IsSigned (cs : List Char) (i : ℤ) : Prop :=
  ∃ ds n, IsNumeral ds n ∧ ((cs = ds ∨ cs = '+' :: ds) ∧ i = n ∨ cs = '-' :: ds ∧ i = -n)

theorem isUnsigned_toString (n : ℕ) : IsUnsigned (toString n).toList n :=
  ⟨_, .inl rfl, isNumeral_toString n⟩

theorem isSigned_toString (i : ℤ) : IsSigned (toString i).toList i := by
  cases i with
  | ofNat n => exact ⟨_, n, isNumeral_toString n, .inl ⟨.inl rfl, rfl⟩⟩
  | negSucc k =>
    rw [toString_negSucc, String.toList_append]
    exact ⟨_, k + 1, isNumeral_toString (k + 1), .inr ⟨rfl, rfl⟩⟩

theorem readNat_eq_ok_iff_isUnsigned {max : ℕ} :
    readNat max cs = .ok n ↔ IsUnsigned cs n ∧ n ≤ max := by
  rw [readNat_eq_ok_iff]
  constructor
  · rintro ⟨ds, hcs, hnumeral, hmax⟩
    exact ⟨⟨ds, hcs, hnumeral⟩, hmax⟩
  · rintro ⟨⟨ds, hcs, hnumeral⟩, hmax⟩
    exact ⟨ds, hcs, hnumeral, hmax⟩

/-- A sign does not change the bounds: minus the bound is in them, the bound itself is not. -/
theorem readInt_eq_ok_iff_isSigned {bound : ℕ} (hbound : 0 < bound) :
    readInt bound cs = .ok i ↔ IsSigned cs i ∧ -(bound : ℤ) ≤ i ∧ i < bound := by
  rw [readInt_eq_ok_iff]
  constructor
  · rintro ⟨ds, n, hnumeral, ⟨hcs, rfl, hmax⟩ | ⟨hcs, rfl, hmax⟩⟩
    · exact ⟨⟨ds, n, hnumeral, .inl ⟨hcs, rfl⟩⟩, by omega, by omega⟩
    · exact ⟨⟨ds, n, hnumeral, .inr ⟨hcs, rfl⟩⟩, by omega, by omega⟩
  · rintro ⟨⟨ds, n, hnumeral, ⟨hcs, rfl⟩ | ⟨hcs, rfl⟩⟩, hlow, hhigh⟩
    · exact ⟨ds, n, hnumeral, .inl ⟨hcs, rfl, by omega⟩⟩
    · exact ⟨ds, n, hnumeral, .inr ⟨hcs, rfl, by omega⟩⟩

/-- The text between two points, or between a point and an end: `k` points stand before it. -/
def IsPart : ℕ → List Char → List Char → Prop
  | 0, cs, part => '.' ∉ part ∧ (cs = part ∨ ∃ rest, cs = part ++ '.' :: rest)
  | k + 1, cs, part => ∃ first rest, '.' ∉ first ∧ cs = first ++ '.' :: rest ∧ IsPart k rest part

theorem getElem?_splitOn_iff {k : ℕ} : (cs.splitOn '.')[k]? = some part ↔ IsPart k cs part := by
  -- cutting at the first point takes one part off
  have hcut : ∀ {first : List Char}, '.' ∉ first → ∀ rest : List Char,
      (first ++ '.' :: rest).splitOn '.' = first :: rest.splitOn '.' := fun hfirst rest =>
    List.splitOn_append_cons_self_of_not_mem hfirst rest
  induction k generalizing cs with
  | zero =>
    constructor
    · intro h
      by_cases hdot : '.' ∈ cs
      · obtain ⟨first, rest, rfl, hfirst⟩ := List.eq_append_cons_of_mem hdot
        rw [hcut hfirst] at h
        obtain rfl := Option.some.inj h
        exact ⟨hfirst, .inr ⟨rest, rfl⟩⟩
      · rw [List.splitOn_eq_singleton hdot] at h
        obtain rfl := Option.some.inj h
        exact ⟨hdot, .inl rfl⟩
    · rintro ⟨hpart, rfl | ⟨rest, rfl⟩⟩
      · rw [List.splitOn_eq_singleton hpart]
        rfl
      · rw [hcut hpart]
        rfl
  | succ k ih =>
    constructor
    · intro h
      by_cases hdot : '.' ∈ cs
      · obtain ⟨first, rest, rfl, hfirst⟩ := List.eq_append_cons_of_mem hdot
        rw [hcut hfirst, List.getElem?_cons_succ] at h
        exact ⟨first, rest, hfirst, rfl, ih.1 h⟩
      · rw [List.splitOn_eq_singleton hdot] at h
        cases h
    · rintro ⟨first, rest, hfirst, rfl, hpart⟩
      rw [hcut hfirst, List.getElem?_cons_succ]
      exact ih.2 hpart

end Text

open Text

/-- The fault is one of the format of a field with the given value. -/
def EventError.IsFormat (e : EventError) (field : EventField) (value : String) : Prop :=
  e.reason = .format ∧ ∃ why, e.message = formatMessage field value why

variable {v : String} {n : ℕ} {b : ℤ} {e : EventError}

/-- **The texts that are slots.** -/
theorem readSlot_eq_ok_iff : readSlot v = .ok n ↔ IsUnsigned v.toList n ∧ n < 2 ^ 64 := by
  have hmax : n ≤ max64 ↔ n < 2 ^ 64 := by
    unfold max64
    omega
  rw [← hmax, ← readNat_eq_ok_iff_isUnsigned]
  unfold readSlot
  cases readNat max64 v.toList <;> simp

/-- A text that is no slot is repeated in the fault. -/
theorem isFormat_of_readSlot_eq_error (h : readSlot v = .error e) : e.IsFormat .slot v := by
  unfold readSlot at h
  split at h
  · cases h
  · next cause _ =>
    cases h
    exact ⟨rfl, cause.message, rfl⟩

/-- **The texts that are ballots.** -/
theorem readBallot_eq_ok_iff : readBallot v = .ok b ↔
    ∃ round, IsPart 2 v.toList round ∧ IsSigned round b ∧ -2 ^ 63 ≤ b ∧ b < 2 ^ 63 := by
  have hbound : ∀ round, readInt bound64 round = .ok b ↔
      IsSigned round b ∧ -2 ^ 63 ≤ b ∧ b < 2 ^ 63 := fun round =>
    readInt_eq_ok_iff_isSigned (by decide)
  simp only [← hbound, ← getElem?_splitOn_iff]
  unfold readBallot
  cases (v.toList.splitOn '.')[2]? with
  | none => simp
  | some round => cases hread : readInt bound64 round <;> simp [hread]

/-- A text that is no ballot is repeated in the fault. -/
theorem isFormat_of_readBallot_eq_error (h : readBallot v = .error e) : e.IsFormat .ballot v := by
  unfold readBallot at h
  split at h
  · cases h
    exact ⟨rfl, _, rfl⟩
  · split at h
    · cases h
    · next cause _ =>
      cases h
      exact ⟨rfl, cause.message, rfl⟩

/-- A slot that was written is read. -/
theorem readSlot_toString (h : n < 2 ^ 64) : readSlot (toString n) = .ok n :=
  readSlot_eq_ok_iff.2 ⟨isUnsigned_toString n, h⟩

/-- A round that was written behind two other parts is read. -/
theorem readBallot_toString {major minor : String} (hmajor : '.' ∉ major.toList)
    (hminor : '.' ∉ minor.toList) (hlow : -2 ^ 63 ≤ b) (hhigh : b < 2 ^ 63) :
    readBallot (major ++ "." ++ minor ++ "." ++ toString b) = .ok b := by
  have hround : '.' ∉ (toString b).toList := fun hdot => by
    rcases mem_toString_int hdot with hminus | hdigit
    · cases hminus
    · cases hdigit
  refine readBallot_eq_ok_iff.2 ⟨_, ⟨major.toList, minor.toList ++ '.' :: (toString b).toList,
    hmajor, ?_, minor.toList, (toString b).toList, hminor, rfl, hround, .inl rfl⟩,
    isSigned_toString b, hlow, hhigh⟩
  simp

/-- **Slots and ballots are read exactly.**  A text is read as a slot exactly if it is an unsigned
numeral below `2^64`, and as a ballot exactly if its third part is a signed numeral from `-2^63` to
`2^63 - 1`.  Any other text is a fault of the format that names the field and repeats the text.
Numbers within these bounds, the bounds included, are read back from what is written for them. -/
theorem readSlot_readBallot_exact :
    (∀ v n, readSlot v = .ok n ↔ IsUnsigned v.toList n ∧ n < 2 ^ 64) ∧
      (∀ v, (∃ n, readSlot v = .ok n) ∨ ∃ e, readSlot v = .error e ∧ e.IsFormat .slot v) ∧
      (∀ v b, readBallot v = .ok b ↔
        ∃ round, IsPart 2 v.toList round ∧ IsSigned round b ∧ -2 ^ 63 ≤ b ∧ b < 2 ^ 63) ∧
      (∀ v, (∃ b, readBallot v = .ok b) ∨ ∃ e, readBallot v = .error e ∧ e.IsFormat .ballot v) ∧
      (∀ n < 2 ^ 64, readSlot (toString n) = .ok n) ∧
      ∀ (major minor : String) (b : ℤ), '.' ∉ major.toList → '.' ∉ minor.toList →
        -2 ^ 63 ≤ b → b < 2 ^ 63 →
          readBallot (major ++ "." ++ minor ++ "." ++ toString b) = .ok b := by
  refine ⟨fun v n => readSlot_eq_ok_iff, fun v => ?_, fun v b => readBallot_eq_ok_iff, fun v => ?_,
    fun n hn => readSlot_toString hn,
    fun major minor b hmajor hminor hlow hhigh => readBallot_toString hmajor hminor hlow hhigh⟩
  · cases hread : readSlot v with
    | ok n => exact .inl ⟨n, rfl⟩
    | error e => exact .inr ⟨e, rfl, isFormat_of_readSlot_eq_error hread⟩
  · cases hread : readBallot v with
    | ok b => exact .inl ⟨b, rfl⟩
    | error e => exact .inr ⟨e, rfl, isFormat_of_readBallot_eq_error hread⟩

/-- The least and the greatest numbers are read back, and the next one is not. -/
theorem readSlot_readBallot_exact_bounds :
    readSlot (toString (2 ^ 64 - 1)) = .ok (2 ^ 64 - 1) ∧
      readBallot ("1" ++ "." ++ "0" ++ "." ++ toString (-2 ^ 63 : ℤ)) = .ok (-2 ^ 63) ∧
      readBallot ("" ++ "." ++ "x" ++ "." ++ toString (2 ^ 63 - 1 : ℤ)) = .ok (2 ^ 63 - 1) ∧
      ∀ n, readSlot (toString (2 ^ 64)) ≠ .ok n := by
  obtain ⟨-, -, -, -, hslots, hballots⟩ := readSlot_readBallot_exact
  have hnext : readSlot (toString (2 ^ 64)) = .error (.badSlot (toString (2 ^ 64)) .tooLarge) := by
    decide +kernel
  refine ⟨hslots _ (by decide), hballots "1" "0" _ (by decide) (by decide) (by decide) (by decide),
    hballots "" "x" _ (by decide) (by decide) (by decide) (by decide), fun n hn => ?_⟩
  rw [hnext] at hn
  cases hn

end ReplicaTrace
