import Mathlib.Data.Int.Notation
import Mathlib.Data.List.Induction
import Mathlib.Data.Nat.Notation
import ReplicaTrace.Proofs.Results
import ReplicaTrace.Proofs.Text.Pieces
import ReplicaTrace.Text.Blank

/-!
# Numbers that are read

A number is read exactly from digits whose value keeps to the bounds, after a sign or none.  What
is written in decimal digits is therefore read back, the least and the greatest number included.

* `readNat_eq_ok_iff`, `readInt_eq_ok_iff` : the texts that are read.
* `readNat_toString`, `readInt_toString` : numbers that were written.
* `IsNumeral.eq_toString` : without leading zeros, digits are told by their value.
-/

namespace ReplicaTrace

namespace Text

/-- Digits with a given value. -/
def IsNumeral (cs : List Char) (n : ℕ) : Prop :=
  cs ≠ [] ∧ (∀ c ∈ cs, c.isDigit = true) ∧ digitsValue 0 cs = n

variable {cs : List Char} {n max bound : ℕ}

theorem isNumeral_toString (n : ℕ) : IsNumeral (toString n).toList n :=
  ⟨fun h => toString_ne_empty n (String.toList_eq_nil_iff.1 h), fun _ => isDigit_of_mem_toString,
    digitsValue_toString n⟩

theorem isBlank_of_isDigit {c : Char} (h : c.isDigit = true) : isBlank c = false := by
  have hc : 48 ≤ c.toNat ∧ c.toNat ≤ 57 := Char.isDigit_iff_toNat.1 h
  simp only [isBlank, Bool.or_eq_false_iff, Bool.and_eq_false_iff, decide_eq_false_iff_not,
    beq_eq_false_iff_ne]
  omega

theorem IsNumeral.not_cons {c : Char} (hc : c.isDigit = false) : ¬ IsNumeral (c :: cs) n :=
  fun h => by simpa [hc] using h.2.1 c List.mem_cons_self

theorem readDigits_eq_ok_iff {excess : NumberError} :
    readDigits max excess cs = .ok n ↔ IsNumeral cs n ∧ n ≤ max := by
  cases cs with
  | nil => simp [readDigits, IsNumeral]
  | cons c cs =>
    rw [readDigits, accumulate_eq_ok_iff (Nat.zero_le max), IsNumeral, and_assoc, and_assoc]
    · simp
    · exact fun h => List.cons_ne_nil _ _ h

/-- **A number** with a plus sign or none. -/
theorem readNat_eq_ok_iff :
    readNat max cs = .ok n ↔ ∃ ds, (cs = ds ∨ cs = '+' :: ds) ∧ IsNumeral ds n ∧ n ≤ max := by
  unfold readNat
  split
  · simp only [reduceCtorEq, false_iff, not_exists]
    rintro ds ⟨rfl | h, hnumeral, -⟩
    · exact hnumeral.1 rfl
    · cases h
  · next rest =>
    rw [readDigits_eq_ok_iff]
    constructor
    · exact fun h => ⟨rest, .inr rfl, h⟩
    · rintro ⟨ds, rfl | h, hnumeral, hmax⟩
      · exact absurd hnumeral (IsNumeral.not_cons (by decide))
      · obtain ⟨-, rfl⟩ := List.cons.inj h
        exact ⟨hnumeral, hmax⟩
  · next hplus =>
    rw [readDigits_eq_ok_iff]
    constructor
    · exact fun h => ⟨cs, .inl rfl, h⟩
    · rintro ⟨ds, rfl | rfl, h⟩
      · exact h
      · exact absurd rfl (hplus ds)

/-- **A number with a sign** or without. -/
theorem readInt_eq_ok_iff {i : ℤ} :
    readInt bound cs = .ok i ↔ ∃ ds n, IsNumeral ds n ∧
      ((cs = ds ∨ cs = '+' :: ds) ∧ i = n ∧ n ≤ bound - 1 ∨
        cs = '-' :: ds ∧ i = -n ∧ n ≤ bound) := by
  unfold readInt
  split
  · simp only [reduceCtorEq, false_iff, not_exists]
    rintro ds n ⟨hnumeral, ⟨rfl | h, -⟩ | ⟨h, -⟩⟩
    · exact hnumeral.1 rfl
    · cases h
    · cases h
  · next rest =>
    simp only [except_map_eq_ok_iff, readDigits_eq_ok_iff]
    constructor
    · rintro ⟨n, ⟨hnumeral, hmax⟩, rfl⟩
      exact ⟨rest, n, hnumeral, .inl ⟨.inr rfl, rfl, hmax⟩⟩
    · rintro ⟨ds, n, hnumeral, ⟨rfl | h, rfl, hmax⟩ | ⟨h, -⟩⟩
      · exact absurd hnumeral (IsNumeral.not_cons (by decide))
      · obtain ⟨-, rfl⟩ := List.cons.inj h
        exact ⟨n, ⟨hnumeral, hmax⟩, rfl⟩
      · cases h
  · next rest =>
    simp only [except_map_eq_ok_iff, readDigits_eq_ok_iff]
    constructor
    · rintro ⟨n, ⟨hnumeral, hmax⟩, rfl⟩
      exact ⟨rest, n, hnumeral, .inr ⟨rfl, rfl, hmax⟩⟩
    · rintro ⟨ds, n, hnumeral, ⟨rfl | h, -⟩ | ⟨h, rfl, hmax⟩⟩
      · exact absurd hnumeral (IsNumeral.not_cons (by decide))
      · cases h
      · obtain ⟨-, rfl⟩ := List.cons.inj h
        exact ⟨n, ⟨hnumeral, hmax⟩, rfl⟩
  · next hplus hminus =>
    simp only [except_map_eq_ok_iff, readDigits_eq_ok_iff]
    constructor
    · rintro ⟨n, ⟨hnumeral, hmax⟩, rfl⟩
      exact ⟨cs, n, hnumeral, .inl ⟨.inl rfl, rfl, hmax⟩⟩
    · rintro ⟨ds, n, hnumeral, ⟨rfl | rfl, rfl, hmax⟩ | ⟨rfl, -⟩⟩
      · exact ⟨n, ⟨hnumeral, hmax⟩, rfl⟩
      · exact absurd rfl (hplus ds)
      · exact absurd rfl (hminus ds)

/-! ### Numbers that were written -/

theorem readNat_toString (h : n ≤ max) : readNat max (toString n).toList = .ok n :=
  readNat_eq_ok_iff.2 ⟨_, .inl rfl, isNumeral_toString n, h⟩

theorem toString_negSucc (k : ℕ) : toString (Int.negSucc k) = "-" ++ toString (k + 1) := rfl

theorem readInt_toString {i : ℤ} (hlow : -(bound : ℤ) ≤ i) (hhigh : i < bound) :
    readInt bound (toString i).toList = .ok i := by
  cases i with
  | ofNat n =>
    have hhigh : (n : ℤ) < bound := hhigh
    exact readInt_eq_ok_iff.2 ⟨_, n, isNumeral_toString n, .inl ⟨.inl rfl, rfl, by omega⟩⟩
  | negSucc k =>
    rw [toString_negSucc, String.toList_append]
    exact readInt_eq_ok_iff.2 ⟨_, k + 1, isNumeral_toString (k + 1), .inr ⟨rfl, rfl, by omega⟩⟩

theorem mem_toString_int {i : ℤ} {c : Char} (h : c ∈ (toString i).toList) :
    c = '-' ∨ c.isDigit = true := by
  cases i with
  | ofNat n => exact .inr (isDigit_of_mem_toString h)
  | negSucc k =>
    rw [toString_negSucc, String.toList_append] at h
    rcases List.mem_append.1 h with h | h
    · exact .inl (List.mem_singleton.1 h)
    · exact .inr (isDigit_of_mem_toString h)

theorem toString_int_injective {i j : ℤ} (h : toString i = toString j) : i = j := by
  -- both are read back with a bound above them
  have hi : readInt (i.natAbs + j.natAbs + 1) (toString i).toList = .ok i :=
    readInt_toString (by omega) (by omega)
  have hj : readInt (i.natAbs + j.natAbs + 1) (toString j).toList = .ok j :=
    readInt_toString (by omega) (by omega)
  rw [h, hj] at hi
  exact (Except.ok.inj hi).symm

/-! ### Numerals without leading zeros -/

theorem digitsValue_concat (acc : ℕ) (cs : List Char) (c : Char) :
    digitsValue acc (cs ++ [c]) = digitsValue acc cs * 10 + digitValue c := by
  rw [digitsValue, List.foldl_append]
  rfl

/-- A digit is written for its value. -/
theorem digitChar_digitValue {c : Char} (h : c.isDigit = true) :
    digitValue c < 10 ∧ (digitValue c).digitChar = c := by
  have hc : 48 ≤ c.toNat ∧ c.toNat ≤ 57 := Char.isDigit_iff_toNat.1 h
  have hlt : digitValue c < 10 := by unfold digitValue; omega
  refine ⟨hlt, Char.toNat_inj.1 ?_⟩
  rw [Nat.toNat_digitChar_of_lt_ten hlt]
  unfold digitValue
  omega

/-- **A numeral without leading zeros** is the one that is written for its value. -/
theorem IsNumeral.eq_toString (h : IsNumeral cs n) (hzero : cs.head? = some '0' → cs = ['0']) :
    cs = (toString n).toList := by
  induction cs using List.reverseRecOn generalizing n with
  | nil => exact absurd rfl h.1
  | append_singleton cs c ih =>
    obtain ⟨-, hdigits, rfl⟩ := h
    obtain ⟨hlt, hchar⟩ := digitChar_digitValue (hdigits c (by simp))
    rw [digitsValue_concat, Nat.toString_eq_repr]
    cases cs with
    | nil =>
      rw [digitsValue_nil, Nat.zero_mul, Nat.zero_add, Nat.repr_of_lt hlt, hchar,
        String.toList_singleton, List.nil_append]
    | cons d ds =>
      -- the digits before the last do not start with a zero either, and are more than zero
      have hhead : d ≠ '0' := by
        rintro rfl
        simpa using hzero rfl
      have hrest := ih (n := digitsValue 0 (d :: ds))
        ⟨List.cons_ne_nil d ds, fun x hx => hdigits x (List.mem_append_left _ hx), rfl⟩
        (by simp [hhead])
      have hpos : digitsValue 0 (d :: ds) ≠ 0 := by
        intro hnone
        rw [hnone] at hrest
        exact hhead (List.cons.inj hrest).1
      have hquotient : (digitsValue 0 (d :: ds) * 10 + digitValue c) / 10 =
          digitsValue 0 (d :: ds) := by omega
      have hremainder : (digitsValue 0 (d :: ds) * 10 + digitValue c) % 10 = digitValue c := by
        omega
      rw [Nat.repr_of_ge (by omega), hquotient, hremainder, hchar, String.toList_append,
        ← Nat.toString_eq_repr, ← hrest, String.toList_singleton]

end Text

end ReplicaTrace
