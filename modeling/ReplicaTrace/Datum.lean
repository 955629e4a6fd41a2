/-!
# Data

A `Datum` is what a document of settings says, free of how it is written down: texts, numbers and
truth values in lists and tables.  Numbers with a fraction are told apart from everything else and
no more, since no setting takes one.  A moment counts as a table with the one entry
`Datum.momentName`.

* `Datum.isReadable` : the value may stand where it is looked at but not used.
* `Datum.fields?` : the named parts of a record, given as a table or in their order as a list.
* `Datum.part` : one part of a record, read if it is given and a default otherwise.
-/

namespace ReplicaTrace

/-- A value in a document. -/
inductive Datum where
  /-- Nothing. -/
  | null
  | text (s : String)
  | integer (n : Int)
  /-- A number with a fraction or an exponent, or one that is no number. -/
  | fraction
  /-- A number that no kind of number can hold. -/
  | outOfBounds
  | boolean (b : Bool)
  /-- A date, a time of day, or both, as text. -/
  | moment (text : String)
  | list (items : List Datum)
  /-- Values with names. -/
  | table (entries : List (String × Datum))
deriving Repr, Inhabited

namespace Datum

/-- A text. -/
def text? : Datum → Option String
  | text s => some s
  | _ => none

/-- A whole number from `0` to `max`. -/
def nat? (max : Nat) : Datum → Option Nat
  | integer n => if 0 ≤ n ∧ n ≤ max then some n.toNat else none
  | _ => none

/-- A list of values that can all be read. -/
def list? {α : Type} (read : Datum → Option α) : Datum → Option (List α)
  | list items => items.mapM read
  | _ => none

/-- The name under which a moment, taken as a table, holds its text. -/
def momentName : String := "$__toml_private_datetime"

/-- A table of values that can all be read. -/
def table? {α : Type} (read : Datum → Option α) : Datum → Option (List (String × α))
  | table entries => entries.mapM fun (name, d) => (read d).map (name, ·)
  | moment s => (read (text s)).map fun a => [(momentName, a)]
  | _ => none

/-- A value that may be nothing. -/
def optional? {α : Type} (read : Datum → Option α) : Datum → Option (Option α)
  | null => some none
  | d => (read d).map some

mutual

/-- No number in the value is out of bounds. -/
def isReadable : Datum → Bool
  | outOfBounds => false
  | list items => areReadable items
  | table entries => haveReadable entries
  | _ => true

/-- No number in the values is out of bounds. -/
def areReadable : List Datum → Bool
  | [] => true
  | d :: items => d.isReadable && areReadable items

/-- No number in the values of the entries is out of bounds. -/
def haveReadable : List (String × Datum) → Bool
  | [] => true
  | (_, d) :: entries => d.isReadable && haveReadable entries

end

/-! ### Records -/

/-- What becomes of the items of a list beyond the parts of the record that the list stands for. -/
inductive Surplus where
  /-- They are passed over, whatever they are. -/
  | ignored
  /-- There may be none. -/
  | refused
deriving DecidableEq, Repr

/-- The parts of a record with their names.  A list gives the first of them, in order; a moment
gives none.  Entries of other names have no meaning but are looked at. -/
def fields? (surplus : Surplus) (names : List String) : Datum → Option (List (String × Datum))
  | table entries =>
    if haveReadable (entries.filter (!names.contains ·.1)) then some entries else none
  | list items =>
    if surplus = .ignored ∨ items.length ≤ names.length then some (names.zip items) else none
  | moment _ => some []
  | _ => none

/-- A part of a record; one that is not given is the default. -/
def part {α : Type} (fields : List (String × Datum)) (name : String) (read : Datum → Option α)
    (default : α) : Option α :=
  match fields.lookup name with
  | some d => read d
  | none => some default

end Datum

end ReplicaTrace
