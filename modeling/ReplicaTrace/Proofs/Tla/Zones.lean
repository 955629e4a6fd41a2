import Mathlib.Data.List.Forall2
import ReplicaTrace.Proofs.Text.Numbers
import ReplicaTrace.Proofs.Tla.Lines

/-!
# What stands outside comments and strings

A TLA+ text is read character by character.  A backslash and a star start a comment, which goes on
to the end of the line; a parenthesis and a star start one that goes on, over lines and over comments
inside it, to the star and the parenthesis that belong to them.  A quote starts a string, which ends
with the next quote that has no backslash before it, or with its line at the latest.  What is left
when the insides of all these are taken out is what the text says.

* `count_outside` : every line feed is kept.
* `Alike` : pieces of a line that say the same and may stand for each other.
* `SameLine`, `visible_join_eq` : lines that say the same may stand for each other in a text.
* `sameLine_of_isNote` : all comments on one line do.
* `Value.alike_ofLog` : logs in which only the servers differ are alike.
-/

namespace ReplicaTrace

namespace Tla

open Text

/-- Where in a text a character stands. -/
inductive Zone where
  /-- Outside comments and strings. -/
  | code
  /-- Outside, behind a backslash. -/
  | backslash
  /-- Outside, behind an opening parenthesis. -/
  | paren
  /-- In a comment that ends with its line. -/
  | comment
  /-- In a string. -/
  | string
  /-- In a string, behind a backslash. -/
  | escaped
  /-- In a comment in parentheses, which is inside of `depth` others. -/
  | block (depth : ℕ)
  /-- In such a comment, behind an opening parenthesis. -/
  | blockParen (depth : ℕ)
  /-- In such a comment, behind a star. -/
  | blockStar (depth : ℕ)
deriving DecidableEq, Repr

namespace Zone

/-- Where the next character stands after one that stands outside. -/
def codeNext (c : Char) : Zone :=
  if c = '\\' then backslash else if c = '(' then paren else if c = '"' then string else code

/-- Where the next character stands after one in a comment in parentheses. -/
def blockNext (depth : ℕ) (c : Char) : Zone :=
  if c = '(' then blockParen depth else if c = '*' then blockStar depth else block depth

/-- Where the character after a comment in parentheses stands. -/
def blockEnd : ℕ → Zone
  | 0 => code
  | depth + 1 => block depth

/-- Where the next character stands. -/
def next : Zone → Char → Zone
  | code, c => codeNext c
  | backslash, c => if c = '*' then comment else if c = '\\' then code else codeNext c
  | paren, c => if c = '*' then block 0 else codeNext c
  | comment, c => if c = '\n' then code else comment
  | string, c => if c = '\\' then escaped else if c = '"' ∨ c = '\n' then code else string
  | escaped, c => if c = '\n' then code else string
  | block depth, c => blockNext depth c
  | blockParen depth, c => if c = '*' then block (depth + 1) else blockNext depth c
  | blockStar depth, c => if c = ')' then blockEnd depth else blockNext depth c

/-- The character belongs to what the text says.  Signs that start a comment and quotes around a
string are kept, and so is the end of a line. -/
def shows (z : Zone) (c : Char) : Bool :=
  c = '\n' || match z with
    | code | backslash | paren => true
    | string => c = '"'
    | _ => false

/-- Where the character after a text stands. -/
def after (z : Zone) (cs : List Char) : Zone :=
  cs.foldl next z

@[simp] theorem after_nil (z : Zone) : z.after [] = z := rfl

@[simp] theorem after_cons (z : Zone) (c : Char) (cs : List Char) :
    z.after (c :: cs) = (z.next c).after cs := rfl

@[simp] theorem after_append (z : Zone) (cs ds : List Char) :
    z.after (cs ++ ds) = (z.after cs).after ds :=
  List.foldl_append

end Zone

/-- What a text says outside its comments and strings, if it starts in the given zone. -/
def outside (z : Zone) : List Char → List Char
  | [] => []
  | c :: cs => if z.shows c then c :: outside (z.next c) cs else outside (z.next c) cs

theorem outside_append (z : Zone) (cs ds : List Char) :
    outside z (cs ++ ds) = outside z cs ++ outside (z.after cs) ds := by
  induction cs generalizing z with
  | nil => rfl
  | cons c cs ih =>
    rw [List.cons_append, outside, outside, ih, Zone.after_cons]
    split <;> rfl

/-- Every line feed is kept. -/
theorem count_outside (z : Zone) (cs : List Char) :
    (outside z cs).count '\n' = cs.count '\n' := by
  induction cs generalizing z with
  | nil => rfl
  | cons c cs ih =>
    rw [outside]
    split
    · rw [List.count_cons, List.count_cons, ih]
    · next hhidden =>
      have hc : c ≠ '\n' := by
        rintro rfl
        simp [Zone.shows] at hhidden
      rw [ih, List.count_cons_of_ne hc]

/-- What a text says, from its start. -/
def visible (text : String) : List Char :=
  outside .code text.toList

/-! ### Pieces of a line -/

/-- After the text the next character stands outside again. -/
def Settled (text : String) : Prop :=
  Zone.code.after text.toList = .code

instance (text : String) : Decidable (Settled text) :=
  inferInstanceAs (Decidable (_ = _))

variable {s s' t t' : String}

theorem visible_append (hs : Settled s) : visible (s ++ t) = visible s ++ visible t := by
  rw [visible, String.toList_append, outside_append, hs]
  rfl

theorem settled_append (hs : Settled s) (ht : Settled t) : Settled (s ++ t) := by
  unfold Settled at *
  rw [String.toList_append, Zone.after_append, hs, ht]

/-- The character has no part in the beginning or the end of a comment, a string or a line. -/
def isPlain (c : Char) : Bool :=
  c ∉ ['\\', '(', '*', ')', '"', '\n']

/-- The text has plain characters only. -/
def Plain (text : String) : Prop :=
  ∀ c ∈ text.toList, isPlain c = true

instance (text : String) : Decidable (Plain text) :=
  decidable_of_iff (text.toList.all isPlain = true) List.all_eq_true

@[simp] theorem plain_append : Plain (s ++ t) ↔ Plain s ∧ Plain t := by
  simp [Plain, or_imp, forall_and]

theorem isPlain_of_isIdentifierRest {c : Char} (h : isIdentifierRest c = true) :
    isPlain c = true := by
  rw [isPlain, decide_eq_true_iff]
  intro hmem
  have hsigns : ['\\', '(', '*', ')', '"', '\n'].all (!isIdentifierRest ·) = true := by decide
  have hc := List.all_eq_true.1 hsigns c hmem
  rw [h] at hc
  cases hc

theorem plain_of_isIdentifier (h : isIdentifier s = true) : Plain s := fun c hc =>
  isPlain_of_isIdentifierRest (isIdentifierRest_of_mem h c hc)

theorem isPlain_of_isDigit {c : Char} (h : c.isDigit = true) : isPlain c = true :=
  isPlain_of_isIdentifierRest (by simp [isIdentifierRest, Char.isAlphanum, h])

@[simp] theorem plain_repr (n : ℕ) : Plain n.repr := fun _ hc =>
  isPlain_of_isDigit (isDigit_of_mem_toString hc)

/-- Outside, a plain character leaves the text outside. -/
theorem next_code_of_isPlain {c : Char} (h : isPlain c = true) : Zone.code.next c = .code := by
  simp only [isPlain, List.mem_cons, List.not_mem_nil, or_false, not_or, decide_eq_true_iff] at h
  obtain ⟨hbackslash, hparen, -, -, hquote, -⟩ := h
  simp [Zone.next, Zone.codeNext, hbackslash, hparen, hquote]

theorem Plain.settled (h : Plain s) : Settled s := by
  unfold Settled
  unfold Plain at h
  generalize s.toList = cs at h
  induction cs with
  | nil => rfl
  | cons c cs ih =>
    rw [Zone.after_cons, next_code_of_isPlain (h c List.mem_cons_self)]
    exact ih fun d hd => h d (List.mem_cons_of_mem c hd)

/-- The texts say the same, and what follows them is read alike. -/
structure Alike (s t : String) : Prop where
  /-- They say the same. -/
  visible_eq : visible s = visible t
  /-- What follows the first is read from outside. -/
  left : Settled s
  /-- So is what follows the second. -/
  right : Settled t

theorem Settled.alike (h : Settled s) : Alike s s := ⟨rfl, h, h⟩

theorem Alike.append (h : Alike s t) (h' : Alike s' t') : Alike (s ++ s') (t ++ t') where
  visible_eq := by
    rw [visible_append h.left, visible_append h.right, h.visible_eq, h'.visible_eq]
  left := settled_append h.left h'.left
  right := settled_append h.right h'.right

theorem alike_intercalate {sep : String} (hsep : Settled sep) {ss ts : List String}
    (h : List.Forall₂ Alike ss ts) : Alike (sep.intercalate ss) (sep.intercalate ts) := by
  induction h with
  | nil => exact Settled.alike (show Settled "" by decide)
  | @cons s t ss ts hfirst hrest ih =>
    cases hrest with
    | nil => simpa [String.intercalate_singleton] using hfirst
    | cons hnext hothers =>
      rw [String.intercalate_cons_cons, String.intercalate_cons_cons]
      exact (hfirst.append hsep.alike).append ih

theorem plain_intercalate {sep : String} (hsep : Plain sep) {texts : List String}
    (h : ∀ text ∈ texts, Plain text) : Plain (sep.intercalate texts) := by
  induction texts with
  | nil => exact (by decide : Plain "")
  | cons s ss ih =>
    obtain ⟨hs, hss⟩ := List.forall_mem_cons.1 h
    cases ss with
    | nil => simpa [String.intercalate_singleton] using hs
    | cons s' ss =>
      rw [String.intercalate_cons_cons, plain_append, plain_append]
      exact ⟨⟨hs, hsep⟩, ih hss⟩

theorem settled_intercalate {sep : String} (hsep : Settled sep) {texts : List String}
    (h : ∀ text ∈ texts, Settled text) : Settled (sep.intercalate texts) :=
  (alike_intercalate hsep (List.forall₂_same.2 fun text htext => (h text htext).alike)).left

/-! ### Lines -/

/-- After the line has ended, the next one starts outside. -/
def Closed (line : String) : Prop :=
  (Zone.code.after line.toList).next '\n' = .code

instance (line : String) : Decidable (Closed line) :=
  inferInstanceAs (Decidable (_ = _))

theorem Settled.closed (h : Settled s) : Closed s := by
  rw [Closed, h]
  rfl

theorem closed_append (hs : Settled s) (ht : Closed t) : Closed (s ++ t) := by
  rw [Closed, String.toList_append, Zone.after_append, hs]
  exact ht

/-- Plain text opens no comment that goes on after the line. -/
theorem closed_append_plain (hs : Closed s) (ht : Plain t) : Closed (s ++ t) := by
  unfold Closed at *
  unfold Plain at ht
  rw [String.toList_append, Zone.after_append]
  generalize Zone.code.after s.toList = z at hs
  generalize t.toList = cs at ht
  induction cs generalizing z with
  | nil => exact hs
  | cons c cs ih =>
    refine ih (z.next c) ?_ fun d hd => ht d (List.mem_cons_of_mem c hd)
    have hc := ht c List.mem_cons_self
    have hcode : Zone.codeNext c = .code := next_code_of_isPlain hc
    simp only [isPlain, List.mem_cons, List.not_mem_nil, or_false, not_or, decide_eq_true_iff] at hc
    obtain ⟨hbackslash, -, hstar, -, hquote, hfeed⟩ := hc
    -- a comment in parentheses is open in none of the zones
    cases z with
    | code => rw [Zone.next, hcode]; rfl
    | backslash => rw [Zone.next, if_neg hstar, if_neg hbackslash, hcode]; rfl
    | paren => rw [Zone.next, if_neg hstar, hcode]; rfl
    | comment => rw [Zone.next, if_neg hfeed]; rfl
    | string => simp [Zone.next, hbackslash, hquote, hfeed]
    | escaped => simp [Zone.next, hfeed]
    | block depth => cases hs
    | blockParen depth => cases hs
    | blockStar depth => cases hs

/-- The lines say the same, and what stands below them is read alike. -/
structure SameLine (s t : String) : Prop where
  /-- They say the same. -/
  visible_eq : visible s = visible t
  /-- The line below the first is read from outside. -/
  left : Closed s
  /-- So is the line below the second. -/
  right : Closed t

theorem Closed.sameLine (h : Closed s) : SameLine s s := ⟨rfl, h, h⟩

theorem Alike.sameLine (h : Alike s t) : SameLine s t := ⟨h.visible_eq, h.left.closed, h.right.closed⟩

/-- **Lines that say the same** may stand for each other in a text. -/
theorem visible_join_eq {lines lines' : List String} (h : List.Forall₂ SameLine lines lines')
    (rest : List String) :
    visible (String.join ((lines ++ rest).map (· ++ "\n"))) =
      visible (String.join ((lines' ++ rest).map (· ++ "\n"))) := by
  have hbreak : ∀ (l : String) (ls : List String), Closed l →
      visible (String.join ((l :: ls).map (· ++ "\n"))) =
        visible l ++ '\n' :: visible (String.join (ls.map (· ++ "\n"))) := by
    intro l ls hl
    have htext : (String.join ((l :: ls).map (· ++ "\n"))).toList =
        l.toList ++ '\n' :: (String.join (ls.map (· ++ "\n"))).toList := by
      simp [String.join_cons]
    rw [visible, htext, outside_append, outside, hl, if_pos (by simp [Zone.shows])]
    rfl
  induction h with
  | nil => rfl
  | @cons l l' ls ls' hfirst _ ih =>
    rw [List.cons_append, List.cons_append, hbreak _ _ hfirst.left, hbreak _ _ hfirst.right,
      hfirst.visible_eq, ih]

/-- The line is a comment from its start. -/
def isNote (line : String) : Bool :=
  ['\\', '*'].isPrefixOf line.toList

/-- Nothing in a comment is said up to the end of the line. -/
theorem outside_comment {cs : List Char} (h : '\n' ∉ cs) :
    outside .comment cs = [] ∧ Zone.comment.after cs = .comment := by
  induction cs with
  | nil => exact ⟨rfl, rfl⟩
  | cons c cs ih =>
    obtain ⟨hc, hcs⟩ := not_or.1 (List.mem_cons.not.1 h)
    simpa [outside, Zone.shows, Zone.next, Ne.symm hc] using ih hcs

theorem visible_of_isNote (hnote : isNote s = true) (h : OneLine s) :
    visible s = ['\\', '*'] ∧ Closed s := by
  obtain ⟨cs, hcs⟩ := List.isPrefixOf_iff_prefix.1 hnote
  have hfeed : '\n' ∉ cs := fun hmem => h (hcs ▸ List.mem_append_right _ hmem)
  obtain ⟨hnothing, hafter⟩ := outside_comment hfeed
  rw [visible, Closed, ← hcs, outside_append, Zone.after_append]
  change outside .code ['\\', '*'] ++ outside .comment cs = _ ∧
    (Zone.comment.after cs).next '\n' = _
  rw [hnothing, hafter]
  exact ⟨by decide, rfl⟩

/-- **Comments on one line** say the same, whatever is in them. -/
theorem sameLine_of_isNote (hs : isNote s = true) (ht : isNote t = true) (hs' : OneLine s)
    (ht' : OneLine t) : SameLine s t :=
  ⟨(visible_of_isNote hs hs').1.trans (visible_of_isNote ht ht').1.symm,
    (visible_of_isNote hs hs').2, (visible_of_isNote ht ht').2⟩

/-! ### Values -/

namespace Value

theorem settled_int (n : ℤ) : Settled (int n).render := by
  refine Plain.settled fun c hc => ?_
  rcases mem_toString_int hc with rfl | hdigit
  · decide
  · exact isPlain_of_isDigit hdigit

theorem settled_bool (b : Bool) : Settled (bool b).render := by
  cases b <;> decide

/-- An escaped character stays in the string and is not shown. -/
theorem outside_escape_append (c : Char) (rest : List Char) :
    outside .string (escape c ++ rest) = outside .string rest ∧
      Zone.string.after (escape c ++ rest) = Zone.string.after rest := by
  unfold escape
  split
  case h_4 hquote hbackslash hfeed =>
    have hquote : c ≠ '"' := hquote
    have hbackslash : c ≠ '\\' := hbackslash
    have hfeed : c ≠ '\n' := hfeed
    simp [outside, Zone.shows, Zone.next, hquote, hbackslash, hfeed]
  all_goals simp [outside, Zone.shows, Zone.next]

/-- **A string says nothing** but its quotes. -/
theorem visible_renderStr (s : String) :
    visible (renderStr s) = ['"', '"'] ∧ Settled (renderStr s) := by
  have hinside : ∀ cs : List Char,
      outside .string (cs.flatMap escape ++ ['"']) = ['"'] ∧
        Zone.string.after (cs.flatMap escape ++ ['"']) = .code := by
    intro cs
    induction cs with
    | nil => decide
    | cons c cs ih =>
      rw [List.flatMap_cons, List.append_assoc, (outside_escape_append c _).1,
        (outside_escape_append c _).2]
      exact ih
  have hopen : Zone.code.next '"' = .string := by decide
  unfold visible Settled
  rw [renderStr, String.toList_ofList, Zone.after_cons, hopen, outside, hopen, if_pos (by decide),
    (hinside _).1, (hinside _).2]
  exact ⟨rfl, rfl⟩

theorem settled_str (s : String) : Settled (str s).render :=
  (visible_renderStr s).2

theorem alike_str (s t : String) : Alike (str s).render (str t).render :=
  ⟨(visible_renderStr s).1.trans (visible_renderStr t).1.symm, settled_str s, settled_str t⟩

theorem settled_function {values : List Value} (h : ∀ v ∈ values, Settled v.render) :
    Settled (function values).render := by
  have hfunction : ∀ (n : ℕ) {body : String}, Settled body → Settled (renderFunction n body) := by
    intro n body hbody
    have hopen : Settled "[i \\in 0.." := by decide
    have harrow : Settled " |-> " := by decide
    have hclose : Settled "]" := by decide
    exact settled_append (settled_append (settled_append (settled_append hopen
      (plain_repr n).settled) harrow) hbody) hclose
  cases values with
  | nil => decide
  | cons v vs =>
    rw [render]
    split
    · exact hfunction _ (h v List.mem_cons_self)
    · have hitems : Settled (", ".intercalate (render v :: renderAll vs)) := by
        rw [← renderAll, renderAll_eq_map]
        refine settled_intercalate (by decide) fun text htext => ?_
        obtain ⟨w, hw, rfl⟩ := List.mem_map.1 htext
        exact h w hw
      exact hfunction _ (settled_append (settled_append (by decide) hitems) (by decide))

/-- Records of a log in which only the servers differ are alike. -/
theorem alike_ofEntry (e : Entry) (server : ServerId) :
    Alike (ofEntry e).render (ofEntry { e with server }).render := by
  have hfield : ∀ (name : String) {v w : Value}, Settled (name ++ " |-> ") →
      Alike v.render w.render → Alike (name ++ " |-> " ++ v.render) (name ++ " |-> " ++ w.render) :=
    fun name v w hname hvalue => hname.alike.append hvalue
  have hfields : List.Forall₂ Alike
      (renderFields [("id", str e.server.text), ("active", bool e.active), ("slot", nat e.slot),
        ("ballot", int e.ballot)])
      (renderFields [("id", str server.text), ("active", bool e.active), ("slot", nat e.slot),
        ("ballot", int e.ballot)]) := by
    refine .cons ?_ (.cons ?_ (.cons ?_ (.cons ?_ .nil)))
    · exact hfield "id" (by decide) (alike_str _ _)
    · exact hfield "active" (by decide) (settled_bool _).alike
    · exact hfield "slot" (by decide) (settled_int _).alike
    · exact hfield "ballot" (by decide) (settled_int _).alike
  have hopen : Settled "[" := by decide
  have hclose : Settled "]" := by decide
  rw [ofEntry, ofEntry, render, render]
  exact (hopen.alike.append (alike_intercalate (by decide) hfields)).append hclose.alike

/-- **Logs in which only the servers differ** are alike. -/
theorem alike_ofLog (log : List Entry) (server : ServerId) :
    Alike (ofLog log).render (ofLog (log.map fun e => { e with server })).render := by
  have hentries : List.Forall₂ Alike (renderAll (log.map ofEntry))
      (renderAll ((log.map fun e => { e with server }).map ofEntry)) := by
    induction log with
    | nil => exact .nil
    | cons e es ih => exact .cons (alike_ofEntry e server) ih
  have hopen : Settled "<<" := by decide
  have hclose : Settled ">>" := by decide
  rw [ofLog, ofLog, render, render]
  exact (hopen.alike.append (alike_intercalate (by decide) hentries)).append hclose.alike

end Value

end Tla

end ReplicaTrace
