/-!
# Decimal numbers with bounds

Whole numbers written in ASCII digits, read up to a bound.  The characters are taken from left to
right and the first fault decides: a character that is no digit, or a digit with which the number
passes the bound.  Leading zeros are allowed, and so is one sign.

* `readNat` : a number up to `max`, with an optional `+`.
* `readInt` : a number from `-bound` to `bound - 1`, with an optional `+` or `-`.
* `accumulate_eq_ok_iff` : digits are read exactly when all are digits and the value is in bounds.
-/

namespace ReplicaTrace

namespace Text

/-- Why a text is no number within the bounds. -/
inductive NumberError where
  /-- There is nothing to read. -/
  | empty
  /-- Some character is no digit, or there is only a sign. -/
  | badDigit
  /-- The number is above the upper bound. -/
  | tooLarge
  /-- The number is below the lower bound. -/
  | tooSmall
deriving DecidableEq, Repr

/-- What is said about the fault. -/
def NumberError.message : NumberError → String
  | .empty => "cannot parse integer from empty string"
  | .badDigit => "invalid digit found in string"
  | .tooLarge => "number too large to fit in target type"
  | .tooSmall => "number too small to fit in target type"

/-- The value of an ASCII digit, counted from the digit zero. -/
def digitValue (c : Char) : Nat :=
  c.toNat - 48

/-- The value of a character that is an ASCII digit. -/
def digit? (c : Char) : Option Nat :=
  if c.isDigit then some (digitValue c) else none

/-- Reads digits after those with the value `acc`; `excess` is the fault of a number above `max`. -/
def accumulate (max : Nat) (excess : NumberError) (acc : Nat) : List Char → Except NumberError Nat
  | [] => .ok acc
  | c :: cs =>
    match digit? c with
    | none => .error .badDigit
    | some d => if max < acc * 10 + d then .error excess else accumulate max excess (acc * 10 + d) cs

/-- Reads one digit or more. -/
def readDigits (max : Nat) (excess : NumberError) : List Char → Except NumberError Nat
  | [] => .error .badDigit
  | cs => accumulate max excess 0 cs

/-- Reads a number from `0` to `max`, with an optional `+`. -/
def readNat (max : Nat) : List Char → Except NumberError Nat
  | [] => .error .empty
  | '+' :: cs => readDigits max .tooLarge cs
  | cs => readDigits max .tooLarge cs

/-- Reads a number from `-bound` to `bound - 1`, with an optional sign. -/
def readInt (bound : Nat) : List Char → Except NumberError Int
  | [] => .error .empty
  | '+' :: cs => (readDigits (bound - 1) .tooLarge cs).map Int.ofNat
  | '-' :: cs => (readDigits bound .tooSmall cs).map fun n => -Int.ofNat n
  | cs => (readDigits (bound - 1) .tooLarge cs).map Int.ofNat

/-- The greatest number of 32 bits. -/
def max32 : Nat := 0xFFFFFFFF

/-- The greatest number of 64 bits. -/
def max64 : Nat := 0xFFFFFFFFFFFFFFFF

/-- The bound of numbers of 64 bits with a sign. -/
def bound64 : Nat := 0x8000000000000000

/-! ### What is accepted -/

/-- The value of digits read after a number. -/
def digitsValue (acc : Nat) (cs : List Char) : Nat :=
  cs.foldl (fun n c => n * 10 + digitValue c) acc

@[simp] theorem digitsValue_nil (acc : Nat) : digitsValue acc [] = acc := rfl

@[simp] theorem digitsValue_cons (acc : Nat) (c : Char) (cs : List Char) :
    digitsValue acc (c :: cs) = digitsValue (acc * 10 + digitValue c) cs :=
  List.foldl_cons

/-- Further digits never make a number smaller. -/
theorem le_digitsValue (acc : Nat) (cs : List Char) : acc ≤ digitsValue acc cs := by
  induction cs generalizing acc with
  | nil => exact Nat.le_refl _
  | cons c cs ih =>
    rw [digitsValue_cons]
    exact Nat.le_trans (by omega) (ih _)

/-- Digits are read exactly when all are digits and the value keeps to the bound. -/
theorem accumulate_eq_ok_iff {max acc n : Nat} {excess : NumberError} {cs : List Char}
    (hacc : acc ≤ max) :
    accumulate max excess acc cs = .ok n ↔
      (∀ c ∈ cs, c.isDigit = true) ∧ digitsValue acc cs = n ∧ n ≤ max := by
  induction cs generalizing acc with
  | nil =>
    simp only [accumulate, Except.ok.injEq, digitsValue_nil, List.not_mem_nil, false_imp_iff,
      implies_true, true_and]
    constructor
    · rintro rfl
      exact ⟨rfl, hacc⟩
    · exact fun h => h.1
  | cons c cs ih =>
    by_cases hd : c.isDigit = true
    · simp only [accumulate, digit?, hd, if_true, digitsValue_cons, List.mem_cons,
        forall_eq_or_imp, true_and]
      by_cases hb : max < acc * 10 + digitValue c
      · simp only [hb, if_true, reduceCtorEq, false_iff, not_and]
        intro _ hv
        have := le_digitsValue (acc * 10 + digitValue c) cs
        omega
      · simp only [hb, if_false]
        exact ih (by omega)
    · simp [accumulate, digit?, hd]

end Text

end ReplicaTrace
