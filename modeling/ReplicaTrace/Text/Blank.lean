/-!
# Blank characters and words

A character is *blank* when Unicode gives it the property `White_Space`.  The words of a text are
its longest stretches without a blank, and trimming drops the blanks at its ends:

* `words_append_blank` : a blank separates the words before it from the words after it.
* `words_of_blank_free` : a text without blanks is one word.
* `trimEnd_eq_self_iff` : trimming leaves a text alone exactly when its last character is no blank.
-/

namespace ReplicaTrace

namespace Text

/-- The characters with the property `White_Space`: tab to carriage return, the space, the next
line character, and the separators of the higher planes.  The zero-width space, the byte order
mark and the control characters `1C` to `1F` are not among them. -/
def isBlank (c : Char) : Bool :=
  let n := c.toNat
  (0x9 ≤ n && n ≤ 0xD) || n == 0x20 || n == 0x85 || n == 0xA0 || n == 0x1680 ||
    (0x2000 ≤ n && n ≤ 0x200A) || n == 0x2028 || n == 0x2029 || n == 0x202F || n == 0x205F ||
    n == 0x3000

/-- The longest stretches without a blank, in order. -/
def words (cs : List Char) : List (List Char) :=
  (cs.splitOnP isBlank).filter (!·.isEmpty)

/-- The text without the blanks at its start. -/
def trimStart (cs : List Char) : List Char :=
  cs.dropWhile isBlank

/-- The text without the blanks at its end. -/
def trimEnd (cs : List Char) : List Char :=
  (cs.reverse.dropWhile isBlank).reverse

/-- The text without the blanks at its ends. -/
def trim (cs : List Char) : List Char :=
  trimEnd (trimStart cs)

/-! ### Words -/

@[simp] theorem words_nil : words [] = [] := rfl

/-- A blank at the start only separates. -/
theorem words_cons_blank {c : Char} (h : isBlank c = true) (cs : List Char) :
    words (c :: cs) = words cs := by
  simp [words, List.splitOnP_cons_eq_if_modifyHead, h]

/-- A blank between two texts separates their words. -/
theorem words_append_blank {c : Char} (h : isBlank c = true) (xs ys : List Char) :
    words (xs ++ c :: ys) = words xs ++ words ys := by
  simp [words, List.splitOnP_append_cons _ _ h]

/-- A text without blanks is one word, unless it is empty. -/
theorem words_of_blank_free {cs : List Char} (hne : cs ≠ []) (h : ∀ c ∈ cs, isBlank c = false) :
    words cs = [cs] := by
  have : cs.splitOnP isBlank = [cs] := by
    induction cs with
    | nil => exact absurd rfl hne
    | cons c cs ih =>
      have hc : isBlank c = false := h c (by simp)
      rcases cs with _ | ⟨d, ds⟩
      · simp [List.splitOnP_cons_eq_if_modifyHead, hc]
      · rw [List.splitOnP_cons_eq_if_modifyHead, ih (by simp) (fun x hx => h x (by simp [hx]))]
        simp [hc]
  simp [words, this, hne]

/-! ### Trimming -/

theorem trimEnd_eq_self_iff {cs : List Char} :
    trimEnd cs = cs ↔ ∀ c, cs.getLast? = some c → isBlank c = false := by
  rw [← List.head?_reverse]
  unfold trimEnd
  rw [List.reverse_eq_iff]
  cases cs.reverse with
  | nil => simp
  | cons c r =>
    by_cases h : isBlank c = true
    · have : List.dropWhile isBlank r ≠ c :: r := fun he => by
        have := (List.dropWhile_suffix isBlank (l := r)).length_le
        rw [he, List.length_cons] at this
        omega
      simp [h, this]
    · simp [h]

end Text

end ReplicaTrace
