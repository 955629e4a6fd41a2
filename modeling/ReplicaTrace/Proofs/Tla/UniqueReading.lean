import Mathlib.Data.Nat.Notation
import ReplicaTrace.Proofs.Text.Numbers
import ReplicaTrace.Proofs.Tla.Lines

/-!
# The text of a value can be read in one way only

No two values have the same text, and where texts of values are followed by other texts, it can be
seen where the value ends: if a value is followed by something that does not go on with a number,
the whole text tells the value and what follows it.  That is shown of all parts of a value: of its
strings, which a reader of escapes gives back, of lists that are joined by commas, of the fields of
a record, and of a function in its two forms.

The names of the fields have to be identifiers, and functions need a value, since the text of the
function without values is that of the empty tuple.

* `literal?_renderStr_append` : a string is read back, and it ends with its own closing quote.
* `ReadsUniquely` : where the text of one thing ends.
* `eq_of_joined` : lists that are joined by commas.
* `Value.Readable.readsUniquely` : values, by induction over their parts.
* `Value.render_tells` : the text tells the value.
-/

namespace ReplicaTrace

namespace Tla

open Text

/-! ### How a text begins -/

/-- The character with which the text begins. -/
def Begins (text : String) (c : Char) : Prop :=
  text.toList.head? = some c

/-- A text begins like its first piece. -/
theorem begins_append (start : String) {c : Char} (h : Begins start c) (rest : String) :
    Begins (start ++ rest) c := by
  obtain ⟨cs, hcs⟩ := List.head?_eq_some_iff.1 h
  rw [Begins, String.toList_append, hcs]
  rfl

theorem Begins.eq {text : String} {c d : Char} (hc : Begins text c) (hd : Begins text d) : c = d :=
  Option.some.inj (hc.symm.trans hd)

theorem Begins.stopsAt {text : String} {c : Char} {kind : Char → Bool} (h : Begins text c)
    (hc : kind c = false) : StopsAt kind text := by
  intro d hd
  obtain rfl := h.eq hd
  exact hc

/-! ### Strings -/

/-- Reads up to the first quote that is not escaped.  It gives what was read and what follows the
quote. -/
def unquote : List Char → Option (List Char × List Char)
  | [] => none
  | '"' :: cs => some ([], cs)
  | '\\' :: c :: cs => (unquote cs).map fun (s, rest) => ((if c = 'n' then '\n' else c) :: s, rest)
  | c :: cs => (unquote cs).map fun (s, rest) => (c :: s, rest)

/-- The string at the beginning of a text, and what follows it. -/
def literal? (text : String) : Option (String × String) :=
  match text.toList with
  | '"' :: cs => (unquote cs).map fun (s, rest) => (String.ofList s, String.ofList rest)
  | _ => none

theorem unquote_escape_append (c : Char) (cs : List Char) :
    unquote (Value.escape c ++ cs) = (unquote cs).map fun (s, rest) => (c :: s, rest) := by
  unfold Value.escape
  split
  · rfl
  · rfl
  · rfl
  · next hquote hbackslash _ =>
    rw [List.singleton_append, unquote]
    · exact hquote
    · exact fun _ _ h => absurd h hbackslash

theorem unquote_flatMap_escape (s rest : List Char) :
    unquote (s.flatMap Value.escape ++ '"' :: rest) = some (s, rest) := by
  induction s with
  | nil => rfl
  | cons c s ih =>
    rw [List.flatMap_cons, List.append_assoc, unquote_escape_append, ih]
    rfl

/-- **A string is read back**, whatever it holds and whatever follows it: it ends with its own
closing quote. -/
theorem literal?_renderStr_append (s rest : String) :
    literal? (Value.renderStr s ++ rest) = some (s, rest) := by
  have htext : (Value.renderStr s ++ rest).toList =
      '"' :: (s.toList.flatMap Value.escape ++ '"' :: rest.toList) := by
    simp [Value.renderStr]
  simp only [literal?, htext, unquote_flatMap_escape, Option.map_some, String.ofList_toList]

/-! ### Where a text ends -/

/-- The character may stand in a number. -/
def inNumber (c : Char) : Bool :=
  c.isDigit || c == '-'

/-- The signs with which lists end. -/
def closingSigns : List Char :=
  ['>', '\x7d', ']']

/-- The text goes on with the end of a list. -/
def Closes (text : String) : Prop :=
  ∃ c, Begins text c ∧ c ∈ closingSigns

/-- The text does not begin like the end of a list. -/
def Opens (text : String) : Prop :=
  ∃ c, Begins text c ∧ c ∉ closingSigns

theorem Closes.stopsAt {text : String} (h : Closes text) : StopsAt inNumber text := by
  obtain ⟨c, hc, hclosing⟩ := h
  have hall : ∀ c ∈ closingSigns, inNumber c = false := by
    simp [closingSigns, inNumber]
  exact hc.stopsAt (hall c hclosing)

theorem stopsAt_comma (rest : String) : StopsAt inNumber (", " ++ rest) :=
  (begins_append ", " rfl rest).stopsAt (by decide)

theorem Closes.ne_comma {text : String} (h : Closes text) (rest : String) :
    text ≠ ", " ++ rest := by
  rintro rfl
  obtain ⟨c, hc, hclosing⟩ := h
  obtain rfl := hc.eq (begins_append ", " rfl rest)
  exact absurd hclosing (by decide)

section

variable {α : Type} {P : α → Prop} {text : α → String} {as bs : List α} {r r' : String}

/-- The text of `a` can be told from those of all things with the property, and it can be seen where
it ends if what follows does not go on with a number. -/
def ReadsUniquely (P : α → Prop) (text : α → String) (a : α) : Prop :=
  ∀ (b : α) (r r' : String), P b → StopsAt inNumber r → StopsAt inNumber r' →
    text a ++ r = text b ++ r' → a = b ∧ r = r'

/-- A list that is not empty begins with its first text. -/
theorem exists_intercalate_cons (t : String) (ts : List String) :
    ∃ rest, ", ".intercalate (t :: ts) = t ++ rest := by
  cases ts with
  | nil => exact ⟨"", by rw [String.intercalate_singleton, String.append_empty]⟩
  | cons t' ts => exact ⟨_, by rw [String.intercalate_cons_cons, String.append_assoc]⟩

/-- Two lists with a value at least: since what ends a list is no comma, they end together. -/
theorem eq_of_joined_cons (hr : Closes r) (hr' : Closes r') {a b : α}
    (has : ∀ x ∈ a :: as, ReadsUniquely P text x) (hbs : ∀ y ∈ b :: bs, P y)
    (h : ", ".intercalate ((a :: as).map text) ++ r = ", ".intercalate ((b :: bs).map text) ++ r') :
    a :: as = b :: bs ∧ r = r' := by
  have ha := has a List.mem_cons_self
  have hb := hbs b List.mem_cons_self
  induction as generalizing a b bs with
  | nil =>
    cases bs with
    | nil =>
      simp only [List.map_cons, List.map_nil, String.intercalate_singleton] at h
      obtain ⟨rfl, rfl⟩ := ha b _ _ hb hr.stopsAt hr'.stopsAt h
      exact ⟨rfl, rfl⟩
    | cons b' bs =>
      simp only [List.map_cons, List.map_nil, String.intercalate_singleton,
        String.intercalate_cons_cons, String.append_assoc] at h
      obtain ⟨-, hcomma⟩ := ha b _ _ hb hr.stopsAt (stopsAt_comma _) h
      exact absurd hcomma (hr.ne_comma _)
  | cons a' as ih =>
    cases bs with
    | nil =>
      simp only [List.map_cons, List.map_nil, String.intercalate_singleton,
        String.intercalate_cons_cons, String.append_assoc] at h
      obtain ⟨-, hcomma⟩ := ha b _ _ hb (stopsAt_comma _) hr'.stopsAt h
      exact absurd hcomma.symm (hr'.ne_comma _)
    | cons b' bs =>
      simp only [List.map_cons, String.intercalate_cons_cons, String.append_assoc] at h
      obtain ⟨rfl, hrest⟩ := ha b _ _ hb (stopsAt_comma _) (stopsAt_comma _) h
      have has' : ∀ x ∈ a' :: as, ReadsUniquely P text x := fun x hx =>
        has x (List.mem_cons_of_mem _ hx)
      have hbs' : ∀ y ∈ b' :: bs, P y := fun y hy => hbs y (List.mem_cons_of_mem _ hy)
      obtain ⟨heq, hends⟩ := ih has' hbs' ((String.append_right_inj _).1 hrest)
        (has' a' List.mem_cons_self) (hbs' b' List.mem_cons_self)
      exact ⟨congrArg (List.cons a) heq, hends⟩

/-- The text of a list that is not empty does not begin like the end of a list. -/
theorem joined_cons_append_ne {a : α} (ha : Opens (text a)) (hr : Closes r) (rest : String) :
    ", ".intercalate ((a :: as).map text) ++ rest ≠ r := by
  obtain ⟨tail, htail⟩ := exists_intercalate_cons (text a) (as.map text)
  obtain ⟨c, hc, hopens⟩ := ha
  obtain ⟨d, hd, hcloses⟩ := hr
  intro h
  have hbegins : Begins r c := by
    rw [← h, List.map_cons, htail]
    exact begins_append _ (begins_append _ hc tail) rest
  exact hopens (hbegins.eq hd ▸ hcloses)

/-- **Lists that are joined by commas** can be told apart, and it can be seen where they end, if the
texts in them can and none of these begins like the end of a list. -/
theorem eq_of_joined (hopens : ∀ a, P a → Opens (text a)) (hr : Closes r) (hr' : Closes r')
    (has : ∀ a ∈ as, P a ∧ ReadsUniquely P text a) (hbs : ∀ b ∈ bs, P b)
    (h : ", ".intercalate (as.map text) ++ r = ", ".intercalate (bs.map text) ++ r') :
    as = bs ∧ r = r' := by
  cases as with
  | nil =>
    cases bs with
    | nil => exact ⟨rfl, (String.append_right_inj _).1 h⟩
    | cons b bs =>
      have hb := hopens b (hbs b List.mem_cons_self)
      rw [List.map_nil, String.intercalate_nil, String.empty_append] at h
      exact absurd h.symm (joined_cons_append_ne hb hr r')
  | cons a as =>
    cases bs with
    | nil =>
      have ha := hopens a (has a List.mem_cons_self).1
      rw [List.map_nil, String.intercalate_nil, String.empty_append] at h
      exact absurd h (joined_cons_append_ne ha hr' r)
    | cons b bs => exact eq_of_joined_cons hr hr' (fun x hx => (has x hx).2) hbs h

end

/-! ### Values -/

/-- How the text of a value begins. -/
inductive Opening where
  /-- A digit or a minus sign. -/
  | number
  /-- The quote of a string. -/
  | quote
  /-- The first letter of a truth value. -/
  | letter
  /-- The angle of a tuple. -/
  | angle
  /-- The brace of a set. -/
  | brace
  /-- The bracket of a record or a function. -/
  | bracket
deriving DecidableEq

/-- What the character opens. -/
def Opening.of? (c : Char) : Option Opening :=
  match c with
  | '"' => some quote
  | 'T' | 'F' => some letter
  | '<' => some angle
  | '\x7b' => some brace
  | '[' => some bracket
  | c => if inNumber c then some number else none

theorem Opening.notMem_closingSigns {c : Char} {o : Opening} (h : of? c = some o) :
    c ∉ closingSigns := by
  have hall : ∀ c ∈ closingSigns, of? c = none := by
    simp [closingSigns, of?, inNumber]
  intro hclosing
  cases (hall c hclosing).symm.trans h

theorem Opening.of?_inNumber {c : Char} (h : inNumber c = true) : of? c = some number := by
  unfold of?
  split
  case h_7 => exact if_pos h
  all_goals exact absurd h (by decide)

namespace Value

/-- How the text of the value begins. -/
def opening : Value → Opening
  | int _ => .number
  | str _ => .quote
  | bool _ => .letter
  | seq _ => .angle
  | set _ => .brace
  | record _ => .bracket
  | function _ => .bracket

/-- All fields in the value have identifiers for their names, and all functions in it have
values. -/
inductive Readable : Value → Prop
  | int (n : ℤ) : Readable (int n)
  | str (s : String) : Readable (str s)
  | bool (b : Bool) : Readable (bool b)
  | seq {items : List Value} (hitems : ∀ v ∈ items, Readable v) : Readable (seq items)
  | set {items : List Value} (hitems : ∀ v ∈ items, Readable v) : Readable (set items)
  | record {fields : List (String × Value)} (hnames : ∀ f ∈ fields, isIdentifier f.1 = true)
      (hvalues : ∀ f ∈ fields, Readable f.2) : Readable (record fields)
  | function {values : List Value} (hne : values ≠ []) (hvalues : ∀ v ∈ values, Readable v) :
      Readable (function values)

variable {v w : Value} {r r' : String}

theorem inNumber_of_mem_toString {n : ℤ} {c : Char} (h : c ∈ (toString n).toList) :
    inNumber c = true := by
  rcases mem_toString_int h with rfl | hdigit
  · rfl
  · simp [inNumber, hdigit]

theorem exists_begins_toString (n : ℤ) : ∃ c, Begins (toString n) c ∧ inNumber c = true := by
  have hne : (toString n).toList ≠ [] := by
    cases n with
    | ofNat n => exact fun hnil => toString_ne_empty n (String.toList_eq_nil_iff.1 hnil)
    | negSucc k => rw [toString_negSucc, String.toList_append]; exact List.cons_ne_nil _ _
  obtain ⟨c, cs, hcs⟩ := List.exists_cons_of_ne_nil hne
  exact ⟨c, by rw [Begins, hcs]; rfl, inNumber_of_mem_toString (hcs ▸ List.mem_cons_self)⟩

/-- What stands after the arrow of a function: its only value, or the tuple of its values. -/
def functionBody (first : Value) (rest : List Value) : Value :=
  if rest.all (same first) then first else seq (first :: rest)

/-- What follows that: the tuple is applied to the index. -/
def functionEnd (first : Value) (rest : List Value) : String :=
  if rest.all (same first) then "]" else "[i + 1]]"

theorem render_function (first : Value) (rest : List Value) :
    (function (first :: rest)).render =
      "[i \\in 0.." ++ (toString rest.length ++ (" |-> " ++
        ((functionBody first rest).render ++ functionEnd first rest))) := by
  rw [render, functionBody, functionEnd]
  split <;> simp [renderFunction, toString, String.append_assoc, render, renderAll]

theorem exists_begins (h : v.Readable) :
    ∃ c, Begins v.render c ∧ Opening.of? c = some v.opening := by
  cases h with
  | int n =>
    obtain ⟨c, hc, hnumber⟩ := exists_begins_toString n
    exact ⟨c, hc, Opening.of?_inNumber hnumber⟩
  | str s => exact ⟨'"', by simp [Begins, render, renderStr], rfl⟩
  | bool b => cases b <;> exact ⟨_, rfl, rfl⟩
  | seq => exact ⟨'<', begins_append _ (begins_append "<<" rfl _) _, rfl⟩
  | set => exact ⟨'\x7b', begins_append _ (begins_append "\x7b" rfl _) _, rfl⟩
  | record => exact ⟨'[', begins_append _ (begins_append "[" rfl _) _, rfl⟩
  | @function values hne =>
    obtain ⟨first, rest, rfl⟩ := List.exists_cons_of_ne_nil hne
    rw [render_function]
    exact ⟨'[', begins_append "[i \\in 0.." rfl _, rfl⟩

theorem Readable.opens (h : v.Readable) : Opens v.render := by
  obtain ⟨c, hc, hopens⟩ := exists_begins h
  exact ⟨c, hc, Opening.notMem_closingSigns hopens⟩

/-- Values with the same text begin in the same way. -/
theorem opening_eq (hv : v.Readable) (hw : w.Readable) (h : v.render ++ r = w.render ++ r') :
    v.opening = w.opening := by
  obtain ⟨c, hc, hcv⟩ := exists_begins hv
  obtain ⟨d, hd, hdw⟩ := exists_begins hw
  obtain rfl : c = d := (begins_append _ hc r).eq (h ▸ begins_append _ hd r')
  exact Option.some.inj (hcv.symm.trans hdw)

/-! ### Every kind of value -/

theorem readsUniquely_int (n : ℤ) : ReadsUniquely Readable render (int n) := by
  intro w r r' hw hr hr' h
  have hopening := opening_eq (.int n) hw h
  cases hw with
  | int m =>
    obtain ⟨hwords, hrest⟩ := append_inj_of_stopsAt (fun _ => inNumber_of_mem_toString)
      (fun _ => inNumber_of_mem_toString) hr hr' h
    exact ⟨congrArg int (toString_int_injective hwords), hrest⟩
  | _ => cases hopening

theorem readsUniquely_str (s : String) : ReadsUniquely Readable render (str s) := by
  intro w r r' hw _ _ h
  have hopening := opening_eq (.str s) hw h
  cases hw with
  | str t =>
    have hread : literal? (renderStr s ++ r) = literal? (renderStr t ++ r') := congrArg literal? h
    rw [literal?_renderStr_append, literal?_renderStr_append] at hread
    obtain ⟨rfl, rfl⟩ := Prod.mk.inj (Option.some.inj hread)
    exact ⟨rfl, rfl⟩
  | _ => cases hopening

theorem readsUniquely_bool (b : Bool) : ReadsUniquely Readable render (bool b) := by
  intro w r r' hw _ _ h
  have hopening := opening_eq (.bool b) hw h
  cases hw with
  | bool b' =>
    cases b <;> cases b'
    · exact ⟨rfl, (String.append_right_inj _).1 h⟩
    · cases ((begins_append "FALSE" rfl r).eq
        (h ▸ begins_append "TRUE" rfl r'))
    · cases ((begins_append "TRUE" rfl r).eq
        (h ▸ begins_append "FALSE" rfl r'))
    · exact ⟨rfl, (String.append_right_inj _).1 h⟩
  | _ => cases hopening

/-- The values of a tuple or set, between the signs that enclose them. -/
theorem eq_of_enclosed {items items' : List Value} {opens closes : String}
    (hcloses : ∀ rest, Closes (closes ++ rest))
    (hitems : ∀ v ∈ items, v.Readable ∧ ReadsUniquely Readable render v)
    (hitems' : ∀ v ∈ items', v.Readable)
    (h : opens ++ ", ".intercalate (renderAll items) ++ closes ++ r =
      opens ++ ", ".intercalate (renderAll items') ++ closes ++ r') : items = items' ∧ r = r' := by
  simp only [renderAll_eq_map, String.append_assoc, String.append_right_inj] at h
  obtain ⟨rfl, hrest⟩ := eq_of_joined (fun _ => Readable.opens) (hcloses r)
    (hcloses r') hitems hitems' h
  exact ⟨rfl, (String.append_right_inj _).1 hrest⟩

theorem readsUniquely_seq {items : List Value}
    (hitems : ∀ v ∈ items, v.Readable ∧ ReadsUniquely Readable render v) :
    ReadsUniquely Readable render (seq items) := by
  intro w r r' hw _ _ h
  have hopening := opening_eq (.seq fun v hv => (hitems v hv).1) hw h
  cases hw with
  | @seq items' hitems' =>
    have hcloses : ∀ rest, Closes (">>" ++ rest) := fun rest =>
      ⟨'>', begins_append ">>" rfl rest, by decide⟩
    obtain ⟨rfl, hrest⟩ := eq_of_enclosed hcloses hitems hitems' h
    exact ⟨rfl, hrest⟩
  | _ => cases hopening

theorem readsUniquely_set {items : List Value}
    (hitems : ∀ v ∈ items, v.Readable ∧ ReadsUniquely Readable render v) :
    ReadsUniquely Readable render (set items) := by
  intro w r r' hw _ _ h
  have hopening := opening_eq (.set fun v hv => (hitems v hv).1) hw h
  cases hw with
  | @set items' hitems' =>
    have hcloses : ∀ rest, Closes ("\x7d" ++ rest) := fun rest =>
      ⟨'\x7d', begins_append "\x7d" rfl rest, by decide⟩
    obtain ⟨rfl, hrest⟩ := eq_of_enclosed hcloses hitems hitems' h
    exact ⟨rfl, hrest⟩
  | _ => cases hopening

/-! ### Records and functions -/

/-- The text of a field. -/
def fieldText (f : String × Value) : String :=
  f.1 ++ " |-> " ++ f.2.render

/-- The field has an identifier for its name, and its value can be read. -/
def IsField (f : String × Value) : Prop :=
  isIdentifier f.1 = true ∧ f.2.Readable

theorem render_record (fields : List (String × Value)) :
    (record fields).render = "[" ++ ", ".intercalate (fields.map fieldText) ++ "]" := by
  rw [render, renderFields_eq_map]
  rfl

/-- The name of a field ends before the arrow. -/
theorem fieldText_append (f : String × Value) (rest : String) :
    fieldText f ++ rest = f.1 ++ (" " ++ ("|-> " ++ (f.2.render ++ rest))) := by
  have harrow : " |-> " = " " ++ "|-> " := rfl
  simp only [fieldText, harrow, String.append_assoc]

theorem name_eq {name name' rest rest' : String} (hname : isIdentifier name = true)
    (hname' : isIdentifier name' = true)
    (h : name ++ (" " ++ rest) = name' ++ (" " ++ rest')) : name = name' ∧ rest = rest' := by
  have hstops : ∀ rest, StopsAt isIdentifierRest (" " ++ rest) := fun rest =>
    (begins_append " " rfl rest).stopsAt (by decide)
  obtain ⟨rfl, hrest⟩ := append_inj_of_stopsAt (isIdentifierRest_of_mem hname)
    (isIdentifierRest_of_mem hname') (hstops rest) (hstops rest') h
  exact ⟨rfl, (String.append_right_inj _).1 hrest⟩

theorem IsField.opens {f : String × Value} (h : IsField f) : Opens (fieldText f) := by
  obtain ⟨c, cs, hcs, hstart, -⟩ := isIdentifier_iff.1 h.1
  have hbegins : Begins f.1 c := by
    rw [Begins, hcs]
    rfl
  have hall : ∀ c ∈ closingSigns, isIdentifierStart c = false := by
    simp [closingSigns, isIdentifierStart]
  refine ⟨c, begins_append _ (begins_append _ hbegins _) _, fun hclosing => ?_⟩
  cases (hall c hclosing).symm.trans hstart

theorem readsUniquely_fieldText {f : String × Value} (hname : isIdentifier f.1 = true)
    (hvalue : ReadsUniquely Readable render f.2) : ReadsUniquely IsField fieldText f := by
  intro g r r' hg hr hr' h
  obtain ⟨name, v⟩ := f
  obtain ⟨name', w⟩ := g
  obtain ⟨hname', hw⟩ := hg
  rw [fieldText_append, fieldText_append] at h
  obtain ⟨rfl, harrow⟩ := name_eq hname hname' h
  obtain ⟨rfl, hends⟩ := hvalue w r r' hw hr hr' ((String.append_right_inj _).1 harrow)
  exact ⟨rfl, hends⟩

/-- Records and functions begin with the same bracket; what tells them apart is the sign after the
first name. -/
theorem record_append_ne {fields : List (String × Value)} (hfields : ∀ f ∈ fields, IsField f)
    (first : Value) (rest : List Value) :
    (record fields).render ++ r ≠ (function (first :: rest)).render ++ r' := by
  have hindex : "[i \\in 0.." = "[" ++ ("i" ++ (" " ++ "\\in 0..")) := rfl
  intro h
  rw [render_function, hindex, render_record] at h
  simp only [String.append_assoc, String.append_right_inj] at h
  cases fields with
  | nil =>
    rw [List.map_nil, String.intercalate_nil, String.empty_append] at h
    cases (begins_append "]" rfl r).eq (h ▸ begins_append "i" rfl _)
  | cons f fields =>
    obtain ⟨tail, htail⟩ := exists_intercalate_cons (fieldText f) (fields.map fieldText)
    rw [List.map_cons, htail, String.append_assoc, fieldText_append] at h
    obtain ⟨-, hsign⟩ := name_eq (hfields f List.mem_cons_self).1 (by decide) h
    cases (begins_append "|-> " rfl _).eq
      (hsign ▸ begins_append "\\in 0.." rfl _)

theorem readsUniquely_record {fields : List (String × Value)}
    (hfields : ∀ f ∈ fields, IsField f ∧ ReadsUniquely Readable render f.2) :
    ReadsUniquely Readable render (record fields) := by
  intro w r r' hw _ _ h
  have hopening := opening_eq (.record (fun f hf => (hfields f hf).1.1)
    fun f hf => (hfields f hf).1.2) hw h
  cases hw with
  | @record fields' hnames' hvalues' =>
    simp only [render_record, String.append_assoc, String.append_right_inj] at h
    have hcloses : ∀ rest, Closes ("]" ++ rest) := fun rest =>
      ⟨']', begins_append "]" rfl rest, by decide⟩
    obtain ⟨rfl, hrest⟩ := eq_of_joined (fun _ => IsField.opens)
      (hcloses r) (hcloses r')
      (fun f hf => ⟨(hfields f hf).1, readsUniquely_fieldText (hfields f hf).1.1 (hfields f hf).2⟩)
      (fun f hf => ⟨hnames' f hf, hvalues' f hf⟩) h
    exact ⟨rfl, (String.append_right_inj _).1 hrest⟩
  | @function values hne _ =>
    obtain ⟨first, rest, rfl⟩ := List.exists_cons_of_ne_nil hne
    exact absurd h (record_append_ne (fun f hf => (hfields f hf).1) first rest)
  | _ => cases hopening

/-- What follows the body of a function tells whether its values are all equal. -/
theorem all_eq_of_functionEnd {first first' : Value} {rest rest' : List Value}
    (h : functionEnd first rest ++ r = functionEnd first' rest' ++ r') :
    rest.all (same first) = rest'.all (same first') ∧ r = r' := by
  have hdiffer : ∀ r r' : String, "]" ++ r ≠ "[i + 1]]" ++ r' := by
    intro r r' h
    cases (begins_append "]" rfl r).eq (h ▸ begins_append "[i + 1]]" rfl r')
  unfold functionEnd at h
  cases hall : rest.all (same first) <;> cases hall' : rest'.all (same first') <;>
    rw [hall, hall'] at h
  · exact ⟨rfl, (String.append_right_inj _).1 h⟩
  · exact absurd h.symm (hdiffer _ _)
  · exact absurd h (hdiffer _ _)
  · exact ⟨rfl, (String.append_right_inj _).1 h⟩

/-- The body of a function tells its values, if their number is known and whether they are equal. -/
theorem eq_of_functionBody {first first' : Value} {rest rest' : List Value}
    (hlength : rest.length = rest'.length)
    (hall : rest.all (same first) = rest'.all (same first'))
    (hbody : functionBody first rest = functionBody first' rest') :
    first :: rest = first' :: rest' := by
  unfold functionBody at hbody
  rw [← hall] at hbody
  split at hbody
  · next huniform =>
    have huniform' := hall ▸ huniform
    obtain rfl := hbody
    have hcopies : ∀ {l : List Value}, l.all (same first) = true →
        l = List.replicate l.length first := by
      intro l hl
      refine List.eq_replicate_iff.2 ⟨rfl, fun v hv => ?_⟩
      exact ((same_iff first v).1 (List.all_eq_true.1 hl v hv)).symm
    rw [hcopies huniform, hcopies huniform', hlength]
  · exact seq.inj hbody

theorem readable_functionBody {first : Value} {rest : List Value}
    (hvalues : ∀ v ∈ first :: rest, v.Readable) : (functionBody first rest).Readable := by
  unfold functionBody
  split
  · exact hvalues first List.mem_cons_self
  · exact .seq hvalues

theorem readsUniquely_functionBody {first : Value} {rest : List Value}
    (hvalues : ∀ v ∈ first :: rest, v.Readable ∧ ReadsUniquely Readable render v) :
    ReadsUniquely Readable render (functionBody first rest) := by
  unfold functionBody
  split
  · exact (hvalues first List.mem_cons_self).2
  · exact readsUniquely_seq hvalues

theorem stopsAt_functionEnd (first : Value) (rest : List Value) (r : String) :
    StopsAt inNumber (functionEnd first rest ++ r) := by
  unfold functionEnd
  split
  · exact (begins_append "]" rfl r).stopsAt (by decide)
  · exact (begins_append "[i + 1]]" rfl r).stopsAt (by decide)

theorem readsUniquely_function {first : Value} {rest : List Value}
    (hvalues : ∀ v ∈ first :: rest, v.Readable ∧ ReadsUniquely Readable render v) :
    ReadsUniquely Readable render (function (first :: rest)) := by
  intro w r r' hw _ _ h
  have hopening := opening_eq
    (.function (List.cons_ne_nil _ _) fun v hv => (hvalues v hv).1) hw h
  cases hw with
  | @record fields hnames hfields =>
    exact absurd h.symm (record_append_ne (fun f hf => ⟨hnames f hf, hfields f hf⟩) first rest)
  | @function values hne hvalues' =>
    obtain ⟨first', rest', rfl⟩ := List.exists_cons_of_ne_nil hne
    simp only [render_function, String.append_assoc, String.append_right_inj] at h
    have hblank : ∀ rest, StopsAt Char.isDigit (" |-> " ++ rest) := fun rest =>
      (begins_append " |-> " rfl rest).stopsAt (by decide)
    obtain ⟨hnumber, harrow⟩ := append_inj_of_stopsAt (fun _ => isDigit_of_mem_toString)
      (fun _ => isDigit_of_mem_toString) (hblank _) (hblank _) h
    obtain ⟨hbody, hend⟩ := readsUniquely_functionBody hvalues (functionBody first' rest') _ _
      (readable_functionBody hvalues') (stopsAt_functionEnd first rest r)
      (stopsAt_functionEnd first' rest' r') ((String.append_right_inj _).1 harrow)
    obtain ⟨hall, hrest⟩ := all_eq_of_functionEnd hend
    exact ⟨congrArg function (eq_of_functionBody (toString_injective hnumber) hall hbody), hrest⟩
  | _ => cases hopening

/-- **Values are read uniquely**, by induction over their parts. -/
theorem Readable.readsUniquely (h : v.Readable) : ReadsUniquely Readable render v := by
  induction h with
  | int n => exact readsUniquely_int n
  | str s => exact readsUniquely_str s
  | bool b => exact readsUniquely_bool b
  | seq hitems ih => exact readsUniquely_seq fun v hv => ⟨hitems v hv, ih v hv⟩
  | set hitems ih => exact readsUniquely_set fun v hv => ⟨hitems v hv, ih v hv⟩
  | record hnames hvalues ih =>
    exact readsUniquely_record fun f hf => ⟨⟨hnames f hf, hvalues f hf⟩, ih f hf⟩
  | @function values hne hvalues ih =>
    obtain ⟨first, rest, rfl⟩ := List.exists_cons_of_ne_nil hne
    exact readsUniquely_function fun v hv => ⟨hvalues v hv, ih v hv⟩

theorem Readable.onOneLine (h : v.Readable) : v.OnOneLine := by
  induction h with
  | int n => exact onOneLine_int n
  | str s => exact onOneLine_str s
  | bool b => exact onOneLine_bool b
  | seq _ ih => exact onOneLine_seq ih
  | set _ ih => exact onOneLine_set ih
  | record hnames _ ih =>
    exact onOneLine_record fun f hf => ⟨newline_not_mem_of_isIdentifier (hnames f hf), ih f hf⟩
  | function _ _ ih => exact onOneLine_function ih

/-! ### Logs -/

theorem readable_ofEntry (e : Entry) : (ofEntry e).Readable := by
  refine .record ?_ ?_
  · have hnames : ∀ name ∈ ["id", "active", "slot", "ballot"], isIdentifier name = true := by
      decide
    intro f hf
    exact hnames f.1 (List.mem_map_of_mem (f := Prod.fst) hf)
  · intro f hf
    simp only [List.mem_cons, List.not_mem_nil, or_false] at hf
    rcases hf with rfl | rfl | rfl | rfl
    · exact .str _
    · exact .bool _
    · exact .int _
    · exact .int _

theorem readable_ofLog (log : List Entry) : (ofLog log).Readable := by
  refine .seq fun v hv => ?_
  obtain ⟨e, -, rfl⟩ := List.mem_map.1 hv
  exact readable_ofEntry e

theorem ofEntry_injective : Function.Injective ofEntry := by
  intro e e' h
  obtain ⟨⟨id⟩, active, slot, ballot⟩ := e
  obtain ⟨⟨id'⟩, active', slot', ballot'⟩ := e'
  simpa [ofEntry, nat, Int.natCast_inj] using h

theorem ofLog_injective : Function.Injective ofLog := by
  intro log log' h
  exact List.map_injective_iff.2 ofEntry_injective (seq.inj h)

/-- **The text of a value can be read in one way only.**  Values with the same text are equal, and
so are logs, whatever the ids in them are.  A string is read back up to its closing quote, whatever
it holds and whatever follows it, and no text of a string or value has a line feed in it. -/
theorem render_tells :
    (∀ v w : Value, v.Readable → w.Readable → v.render = w.render → v = w) ∧
      (∀ log log' : List Entry, (ofLog log).render = (ofLog log').render → log = log') ∧
      (∀ s rest : String, literal? (renderStr s ++ rest) = some (s, rest)) ∧
      (∀ s : String, OneLine (renderStr s)) ∧ ∀ v : Value, v.Readable → OneLine v.render := by
  have htells : ∀ v w : Value, v.Readable → w.Readable → v.render = w.render → v = w := by
    intro v w hv hw h
    have hnothing : StopsAt inNumber "" := by decide
    exact (hv.readsUniquely w "" "" hw hnothing hnothing (by rw [h])).1
  refine ⟨htells, ?_, literal?_renderStr_append, onOneLine_str, fun v hv => hv.onOneLine⟩
  intro log log' h
  exact ofLog_injective (htells _ _ (readable_ofLog log) (readable_ofLog log') h)

/-- A log whose servers have quotes, backslashes, a line feed and the signs of other values in their
ids. -/
def crookedLog : List Entry :=
  [⟨⟨"0\", active |-> TRUE, slot |-> 1"⟩, true, 1, 2⟩, ⟨⟨"]>>\n\\"⟩, false, 0, -3⟩]

theorem render_tells_crookedLog :
    (ofLog crookedLog).Readable ∧
      (ofLog crookedLog).render ≠ (ofLog crookedLog.reverse).render := by
  refine ⟨readable_ofLog crookedLog, fun h => ?_⟩
  exact absurd (render_tells.2.1 _ _ h) (by decide)

end Value

end Tla

end ReplicaTrace
