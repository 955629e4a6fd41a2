import Mathlib.Data.Nat.Notation
import ReplicaTrace.Text.Decimal

/-!
# Pieces of a text

Readers for pieces of a text: its lines, what comes after a given beginning or before a given end,
the leading characters of a kind, and numbers.  Each comes with the texts that it reads.

* `after?_eq_some_iff`, `before?_eq_some_iff` : a given beginning, a given end.
* `leading_append` : the leading characters of a kind.
* `numeral?_append` : a number in decimal digits.
* `linesOf_join` : lines that were written one after the other.
* `notMem_of_mem_splitOnP` : the pieces of a list that is cut at some of its elements.
-/

namespace ReplicaTrace

namespace Text

/-- The text after a given beginning. -/
def after? (start text : String) : Option String :=
  if start.toList.isPrefixOf text.toList then
    some (String.ofList (text.toList.drop start.toList.length))
  else none

/-- The text before a given end. -/
def before? (stop text : String) : Option String :=
  if stop.toList.isSuffixOf text.toList then
    some (String.ofList (text.toList.take (text.toList.length - stop.toList.length)))
  else none

/-- The leading characters of a kind, and the text after them. -/
def leading (kind : Char → Bool) (text : String) : String × String :=
  (String.ofList (text.toList.takeWhile kind), String.ofList (text.toList.dropWhile kind))

/-- The number that the leading digits of a text give, and the text after them. -/
def numeral? (text : String) : Option (ℕ × String) :=
  let (digits, rest) := leading Char.isDigit text
  if digits = "" then none else some (digitsValue 0 digits.toList, rest)

/-- The number that a text of digits gives. -/
def number? (text : String) : Option ℕ :=
  match numeral? text with
  | some (n, rest) => if rest = "" then some n else none
  | none => none

/-- The lines of a text; the last one is what comes after the last line feed. -/
def linesOf (text : String) : List String :=
  (text.toList.splitOn '\n').map String.ofList

/-- The text is empty or starts with a character of another kind. -/
def StopsAt (kind : Char → Bool) (text : String) : Prop :=
  ∀ c ∈ text.toList.head?, kind c = false

/-- The text has no line feed in it. -/
def OneLine (text : String) : Prop :=
  '\n' ∉ text.toList

instance (kind : Char → Bool) (text : String) : Decidable (StopsAt kind text) :=
  Option.decidableForallMem _

instance (text : String) : Decidable (OneLine text) :=
  inferInstanceAs (Decidable ('\n' ∉ text.toList))

/-! ### Lists that are cut or joined -/

section

variable {α : Type} {cut : α → Bool} {xs piece : List α}

/-- Where a list is cut, nothing stays in the pieces. -/
theorem notMem_of_mem_splitOnP (h : piece ∈ xs.splitOnP cut) : ∀ a ∈ piece, cut a = false := by
  induction xs generalizing piece with
  | nil =>
    rw [List.splitOnP_nil, List.mem_singleton] at h
    simp [h]
  | cons x xs ih =>
    obtain ⟨first, others, hpieces⟩ := List.exists_cons_of_ne_nil (List.splitOnP_ne_nil cut xs)
    rw [List.splitOnP_cons_eq_if_modifyHead] at h
    rw [hpieces] at h ih
    by_cases hx : cut x = true
    · rw [if_pos hx] at h
      rcases List.mem_cons.1 h with rfl | h
      · simp
      · exact ih h
    · rw [if_neg hx] at h
      rcases List.mem_cons.1 h with rfl | h
      · -- the element joins the first piece
        rintro a ha
        rcases List.mem_cons.1 ha with rfl | ha
        · exact Bool.eq_false_iff.2 hx
        · exact ih List.mem_cons_self a ha
      · exact ih (List.mem_cons_of_mem _ h)

theorem splitOn_replicate_append [DecidableEq α] (a : α) (k : ℕ) (xs : List α) :
    (List.replicate k a ++ xs).splitOn a = List.replicate k [] ++ xs.splitOn a := by
  induction k with
  | zero => rfl
  | succ k ih =>
    rw [List.replicate_succ, List.replicate_succ, List.cons_append, List.cons_append, ← ih]
    exact List.splitOn_append_cons_self_of_not_mem (List.not_mem_nil : a ∉ []) _

/-- What is added without a cut joins the last piece. -/
theorem exists_splitOn_append [DecidableEq α] (a : α) (xs : List α) :
    ∃ before last, ∀ ys, a ∉ ys → (xs ++ ys).splitOn a = before ++ [last ++ ys] := by
  induction xs with
  | nil => exact ⟨[], [], fun ys hys => List.splitOn_eq_singleton hys⟩
  | cons x xs ih =>
    obtain ⟨before, last, hpieces⟩ := ih
    by_cases hx : x = a
    · subst hx
      refine ⟨[] :: before, last, fun ys hys => ?_⟩
      rw [List.cons_append, List.splitOn_cons_eq_if_modifyHead, if_pos (by simp), hpieces ys hys,
        List.cons_append]
    · -- the element joins the first piece
      cases before with
      | nil =>
        refine ⟨[], x :: last, fun ys hys => ?_⟩
        rw [List.cons_append, List.splitOn_cons_eq_if_modifyHead, if_neg (by simpa using hx),
          hpieces ys hys]
        rfl
      | cons first before =>
        refine ⟨(x :: first) :: before, last, fun ys hys => ?_⟩
        rw [List.cons_append, List.splitOn_cons_eq_if_modifyHead, if_neg (by simpa using hx),
          hpieces ys hys]
        rfl

/-- What stands in joined lists is the separator or stands in one of them. -/
theorem mem_intercalate {sep a : α} {pieces : List (List α)} (h : a ∈ [sep].intercalate pieces) :
    a = sep ∨ ∃ piece ∈ pieces, a ∈ piece := by
  induction pieces with
  | nil => simp at h
  | cons piece pieces ih =>
    cases pieces with
    | nil => exact .inr ⟨piece, List.mem_cons_self, by simpa using h⟩
    | cons next pieces =>
      rw [List.intercalate_cons_cons, List.mem_append, List.mem_append, List.mem_singleton] at h
      rcases h with (h | h) | h
      · exact .inr ⟨piece, List.mem_cons_self, h⟩
      · exact .inl h
      · rcases ih h with h | ⟨p, hp, ha⟩
        · exact .inl h
        · exact .inr ⟨p, List.mem_cons_of_mem _ hp, ha⟩

/-- What stands in one of the lists stands in all of them joined. -/
theorem mem_intercalate_of_mem {sep a : α} {pieces : List (List α)} (hpiece : piece ∈ pieces)
    (h : a ∈ piece) : a ∈ [sep].intercalate pieces := by
  induction pieces with
  | nil => cases hpiece
  | cons first pieces ih =>
    cases pieces with
    | nil =>
      obtain rfl := List.mem_singleton.1 hpiece
      simpa using h
    | cons next pieces =>
      rw [List.intercalate_cons_cons, List.mem_append]
      rcases List.mem_cons.1 hpiece with rfl | hpiece
      · exact .inl (List.mem_append_left _ h)
      · exact .inr (ih hpiece)

end

/-! ### A given beginning or end -/

variable {start stop text rest : String}

theorem after?_eq_some_iff : after? start text = some rest ↔ text = start ++ rest := by
  unfold after?
  constructor
  · intro h
    split at h
    · next hpre =>
      obtain ⟨tail, htail⟩ := List.isPrefixOf_iff_prefix.1 hpre
      have hrest : rest.toList = tail := by
        rw [← htail, List.drop_left] at h
        rw [← Option.some.inj h, String.toList_ofList]
      rw [← String.toList_inj, String.toList_append, hrest, htail]
    · cases h
  · rintro rfl
    simp

@[simp] theorem after?_append (start rest : String) : after? start (start ++ rest) = some rest :=
  after?_eq_some_iff.2 rfl

theorem before?_eq_some_iff : before? stop text = some rest ↔ text = rest ++ stop := by
  unfold before?
  constructor
  · intro h
    split at h
    · next hsuf =>
      obtain ⟨front, hfront⟩ := List.isSuffixOf_iff_suffix.1 hsuf
      have hrest : rest.toList = front := by
        rw [← hfront, List.length_append, Nat.add_sub_cancel, List.take_left] at h
        rw [← Option.some.inj h, String.toList_ofList]
      rw [← String.toList_inj, String.toList_append, hrest, hfront]
    · cases h
  · rintro rfl
    simp

@[simp] theorem before?_append (rest stop : String) : before? stop (rest ++ stop) = some rest :=
  before?_eq_some_iff.2 rfl

/-! ### Leading characters -/

variable {kind : Char → Bool} {word : String}

theorem leading_append (hword : ∀ c ∈ word.toList, kind c = true) (hrest : StopsAt kind rest) :
    leading kind (word ++ rest) = (word, rest) := by
  have htake : rest.toList.takeWhile kind = [] := by
    unfold StopsAt at hrest
    cases h : rest.toList with
    | nil => rfl
    | cons c cs => simp_all
  have hdrop : rest.toList.dropWhile kind = rest.toList := by
    unfold StopsAt at hrest
    cases h : rest.toList with
    | nil => rfl
    | cons c cs => simp_all
  rw [leading, String.toList_append, List.takeWhile_append_of_pos hword,
    List.dropWhile_append_of_pos hword, htake, hdrop, List.append_nil, String.ofList_toList,
    String.ofList_toList]

theorem stopsAt_append (htext : text ≠ "") (h : StopsAt kind text) (rest : String) :
    StopsAt kind (text ++ rest) := by
  have hne : text.toList ≠ [] := fun hnil => htext (String.toList_eq_nil_iff.1 hnil)
  obtain ⟨c, cs, hcs⟩ := List.exists_cons_of_ne_nil hne
  simpa [StopsAt, hcs] using h

/-- Words are told apart by what stands after them. -/
theorem append_inj_of_stopsAt {word' rest' : String} (hword : ∀ c ∈ word.toList, kind c = true)
    (hword' : ∀ c ∈ word'.toList, kind c = true) (hrest : StopsAt kind rest)
    (hrest' : StopsAt kind rest') (h : word ++ rest = word' ++ rest') :
    word = word' ∧ rest = rest' := by
  have hsame : leading kind (word ++ rest) = leading kind (word' ++ rest') := by rw [h]
  rw [leading_append hword hrest, leading_append hword' hrest'] at hsame
  exact Prod.ext_iff.1 hsame

/-! ### Numbers -/

theorem isDigit_of_mem_toString {n : ℕ} {c : Char} (h : c ∈ (toString n).toList) :
    c.isDigit = true := by
  rw [Nat.toString_eq_repr, Nat.toList_repr] at h
  exact Nat.isDigit_of_mem_toDigits (by decide) (by decide) h

@[simp] theorem oneLine_repr (n : ℕ) : OneLine n.repr :=
  fun h => absurd (isDigit_of_mem_toString h) (by decide)

theorem toString_ne_empty (n : ℕ) : toString n ≠ "" := by
  intro h
  have hlist := congrArg String.toList h
  rw [Nat.toString_eq_repr, Nat.toList_repr] at hlist
  exact Nat.toDigits_ne_nil hlist

theorem digitsValue_toString (n : ℕ) : digitsValue 0 (toString n).toList = n := by
  -- the library's value of digits multiplies from the other side
  have hvalue := Nat.ofDigitChars_ten_toDigits (n := n)
  rw [Nat.ofDigitChars_eq_foldl] at hvalue
  rw [Nat.toString_eq_repr, Nat.toList_repr, digitsValue]
  simpa [digitValue, Nat.mul_comm] using hvalue

theorem numeral?_append (n : ℕ) (hrest : StopsAt Char.isDigit rest) :
    numeral? (toString n ++ rest) = some (n, rest) := by
  simp only [numeral?, leading_append (fun _ => isDigit_of_mem_toString) hrest,
    toString_ne_empty, if_false, digitsValue_toString]

theorem number?_toString (n : ℕ) : number? (toString n) = some n := by
  have h : numeral? (toString n ++ "") = some (n, "") := numeral?_append n (by simp [StopsAt])
  rw [String.append_empty] at h
  simp only [number?, h, if_true]

theorem toString_injective {m n : ℕ} (h : toString m = toString n) : m = n := by
  have hsame : number? (toString m) = number? (toString n) := by rw [h]
  rw [number?_toString, number?_toString] at hsame
  exact Option.some.inj hsame

/-! ### Lines -/

@[simp] theorem oneLine_append {s t : String} : OneLine (s ++ t) ↔ OneLine s ∧ OneLine t := by
  simp [OneLine, not_or]

theorem oneLine_intercalate {sep : String} {texts : List String} (hsep : OneLine sep)
    (h : ∀ t ∈ texts, OneLine t) : OneLine (sep.intercalate texts) := by
  induction texts with
  | nil => simp [OneLine]
  | cons t ts ih =>
    cases ts with
    | nil => simpa [String.intercalate_singleton] using h t (by simp)
    | cons t' ts =>
      rw [String.intercalate_cons_cons, oneLine_append, oneLine_append]
      exact ⟨⟨h t (by simp), hsep⟩, ih fun x hx => h x (List.mem_cons_of_mem _ hx)⟩

theorem linesOf_of_oneLine {line : String} (h : OneLine line) : linesOf line = [line] := by
  rw [linesOf, List.splitOn_eq_singleton h, List.map_singleton, String.ofList_toList]

/-- Texts without a line feed are lines. -/
theorem flatMap_linesOf {lines : List String} (h : ∀ l ∈ lines, OneLine l) :
    lines.flatMap linesOf = lines := by
  induction lines with
  | nil => rfl
  | cons l ls ih =>
    rw [List.flatMap_cons, linesOf_of_oneLine (h l List.mem_cons_self),
      ih fun l' hl' => h l' (List.mem_cons_of_mem _ hl'), List.singleton_append]

/-- The lines of texts that were written one after the other; the empty text after the last line
feed is one more. -/
theorem linesOf_join_eq_flatMap (texts : List String) :
    linesOf (String.join (texts.map (· ++ "\n"))) = texts.flatMap linesOf ++ [""] := by
  induction texts with
  | nil => rfl
  | cons text texts ih =>
    rw [List.map_cons, String.join_cons, linesOf]
    rw [linesOf] at ih
    have hbreak : (text ++ "\n" ++ String.join (texts.map (· ++ "\n"))).toList =
        text.toList ++ '\n' :: (String.join (texts.map (· ++ "\n"))).toList := by
      simp
    rw [hbreak, List.splitOn_append_cons_self, List.map_append, ih, List.flatMap_cons,
      List.append_assoc, linesOf]

/-- **Lines that were written one after the other**, each without a line feed in it, are read
back. -/
theorem linesOf_join {lines : List String} (h : ∀ l ∈ lines, OneLine l) :
    linesOf (String.join (lines.map (· ++ "\n"))) = lines ++ [""] := by
  rw [linesOf_join_eq_flatMap, flatMap_linesOf h]

end Text

end ReplicaTrace
