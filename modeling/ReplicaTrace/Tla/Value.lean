import ReplicaTrace.History.Snapshot

/-!
# TLA+ values

The constant expressions that a trace module needs, and their text.  Strings keep every character
but the quote, the backslash and the line feed, which are escaped; a function over the indices
`0..(n-1)` is written with one value if all its values are equal, and with a tuple otherwise.

* `Value.render` : the text of a value.
* `Value.same_iff` : equality of values can be decided.
-/

namespace ReplicaTrace

namespace Tla

/-- A constant expression. -/
inductive Value where
  /-- A whole number. -/
  | int (n : Int)
  /-- A string. -/
  | str (s : String)
  /-- A truth value. -/
  | bool (b : Bool)
  /-- A tuple `<<a, b>>`. -/
  | seq (items : List Value)
  /-- A set of the given elements. -/
  | set (items : List Value)
  /-- A record `[name |-> value, ...]`. -/
  | record (fields : List (String × Value))
  /-- A function over the indices `0..(n-1)`, given by its `n` values. -/
  | function (values : List Value)
deriving Repr

namespace Value

/-! ### Equality -/

mutual

/-- The values are equal. -/
def same : Value → Value → Bool
  | int a, int b => a == b
  | str a, str b => a == b
  | bool a, bool b => a == b
  | seq as, seq bs => sameAll as bs
  | set as, set bs => sameAll as bs
  | record as, record bs => sameFields as bs
  | function as, function bs => sameAll as bs
  | _, _ => false

/-- The lists of values are equal. -/
def sameAll : List Value → List Value → Bool
  | [], [] => true
  | a :: as, b :: bs => same a b && sameAll as bs
  | _, _ => false

/-- The lists of fields are equal. -/
def sameFields : List (String × Value) → List (String × Value) → Bool
  | [], [] => true
  | (n, a) :: as, (m, b) :: bs => n == m && same a b && sameFields as bs
  | _, _ => false

end

mutual

theorem same_iff : ∀ a b : Value, same a b = true ↔ a = b
  | int a, b => by cases b <;> simp [same]
  | str a, b => by cases b <;> simp [same]
  | bool a, b => by cases b <;> simp [same]
  | seq as, b => by cases b <;> simp [same, sameAll_iff as]
  | set as, b => by cases b <;> simp [same, sameAll_iff as]
  | record as, b => by cases b <;> simp [same, sameFields_iff as]
  | function as, b => by cases b <;> simp [same, sameAll_iff as]

theorem sameAll_iff : ∀ as bs : List Value, sameAll as bs = true ↔ as = bs
  | [], bs => by cases bs <;> simp [sameAll]
  | a :: as, bs => by cases bs <;> simp [sameAll, same_iff a, sameAll_iff as]

theorem sameFields_iff : ∀ as bs : List (String × Value), sameFields as bs = true ↔ as = bs
  | [], bs => by cases bs <;> simp [sameFields]
  | (n, a) :: as, bs => by
    cases bs <;> simp [sameFields, same_iff a, sameFields_iff as, Prod.ext_iff]

end

instance : DecidableEq Value := fun a b =>
  decidable_of_iff _ (same_iff a b)

/-! ### Text -/

/-- How a character stands in a string. -/
def escape (c : Char) : List Char :=
  match c with
  | '"' => ['\\', '"']
  | '\\' => ['\\', '\\']
  | '\n' => ['\\', 'n']
  | c => [c]

/-- The text of a string. -/
def renderStr (s : String) : String :=
  String.ofList ('"' :: (s.toList.flatMap escape ++ ['"']))

/-- The text of a function over the indices below `n + 1`. -/
def renderFunction (n : Nat) (body : String) : String :=
  s!"[i \\in 0..{n} |-> {body}]"

mutual

/-- The text of a value. -/
def render : Value → String
  | int n => toString n
  | str s => renderStr s
  | bool true => "TRUE"
  | bool false => "FALSE"
  | seq items => "<<" ++ ", ".intercalate (renderAll items) ++ ">>"
  | set items => "\x7b" ++ ", ".intercalate (renderAll items) ++ "\x7d"
  | record fields => "[" ++ ", ".intercalate (renderFields fields) ++ "]"
  | function [] => "<<>>"
  | function (first :: rest) =>
    if rest.all (same first) then renderFunction rest.length (render first)
    else
      renderFunction rest.length
        ("<<" ++ ", ".intercalate (render first :: renderAll rest) ++ ">>[i + 1]")

/-- The texts of values. -/
def renderAll : List Value → List String
  | [] => []
  | v :: vs => render v :: renderAll vs

/-- The texts of fields. -/
def renderFields : List (String × Value) → List String
  | [] => []
  | (name, v) :: fields => (name ++ " |-> " ++ render v) :: renderFields fields

end

theorem renderAll_eq_map (vs : List Value) : renderAll vs = vs.map render := by
  induction vs with
  | nil => rfl
  | cons v vs ih => rw [renderAll, ih, List.map_cons]

/-! ### Values of the history -/

/-- A natural number. -/
def nat (n : Nat) : Value := int n

/-- The indices `0..(n-1)` as a set. -/
def indexSet (n : Nat) : Value := set ((List.range n).map nat)

/-- A role is given by its name. -/
def ofRole (r : Role) : Value := str r.name

/-- A record of a log. -/
def ofEntry (e : Entry) : Value :=
  record [("id", str e.server.text), ("active", bool e.active), ("slot", nat e.slot),
    ("ballot", int e.ballot)]

/-- A log is the tuple of its records. -/
def ofLog (log : List Entry) : Value := seq (log.map ofEntry)

end Value

end Tla

end ReplicaTrace
