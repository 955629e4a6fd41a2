import ReplicaTrace.Toml.Moment
import ReplicaTrace.Toml.Number
import ReplicaTrace.Toml.Tree

/-!
# Documents

A document is a list of statements, one on a line: a value under a key, or the header of a table.
The values that follow a header belong to its table.

* `Toml.key` : a key of at most `maxDepth` names.
* `Toml.value` : a value, in which lists and tables may be nested up to `maxDepth`.
* `Toml.statements` : the statements of a document.
* `Toml.read` : the document as a table.
-/

namespace ReplicaTrace

namespace Toml

open Reader

/-! ### Keys -/

/-- A character of a name that stands without quotes. -/
def isBare (c : Char) : Bool :=
  c.isAlphanum || c == '_' || c == '-'

/-- A name. -/
def name : Reader String := do
  match ← next? with
  | some '"' | some '\x27' => return String.ofList (← keyQuotation)
  | _ =>
    let bare ← takeWhile isBare
    if bare.isEmpty then failure else return String.ofList bare

/-- Takes a point with blanks around it, if one comes next. -/
def point : Reader Bool := do
  blanks
  if ← accept '.' then
    blanks
    return true
  else return false

/-- How many names a key may have, and how deep lists and tables may be nested in a value. -/
def maxDepth : Nat := 80

/-- A key: names with points between them. -/
def key : Reader Key := do
  let names ← separated name point
  if maxDepth < names.length then failure
  else return ⟨names.dropLast, names.getLast?.getD ""⟩

/-! ### Values -/

/-- A character with a meaning between values, or a line end. -/
def isMark (c : Char) : Bool :=
  c == '=' || c == ',' || c == '[' || c == ']' || c == '\x7b' || c == '\x7d' || c == '#' ||
    c == '\r' || c == '\n'

/-- After blanks, the text of a number, a moment or a truth value goes on. -/
def goesOn (cs : List Char) : Bool :=
  match cs.dropWhile isInlineBlank with
  | [] => false
  | c :: _ => !isMark c && c != '.' && c != '"' && c != '\x27'

/-- The text of a number, a moment or a truth value, and what follows it.  It goes up to the next
mark; blanks belong to it if it goes on after them. -/
def scalarText : List Char → List Char × List Char
  | [] => ([], [])
  | c :: cs =>
    if isMark c || (isInlineBlank c && !goesOn cs) then ([], c :: cs)
    else
      let (text, rest) := scalarText cs
      (c :: text, rest)

/-- A number, a moment or a truth value. -/
def scalar : Reader Datum := do
  let text ← modifyGet scalarText
  if text = "true".toList then return .boolean true
  else if text = "false".toList then return .boolean false
  else if let some d := number? text then return d
  else if let some m := moment? text then return .moment m.text
  else failure

/-- A key with its value; `space` takes what may stand around the sign between them. -/
def pair (space : Reader Unit) (value : Reader Datum) : Reader (Key × Datum) := do
  let k ← key
  space
  expect '='
  space
  return (k, ← value)

/-- The items of a list or a table up to its closing bracket.  Line ends and comments may stand
between them, and a comma may follow the last. -/
def itemsUpTo {α : Type} (close : Char) (item : Reader α) : Reader (List α) := do
  gap
  if ← accept close then return []
  else separated item more
where
  more : Reader Bool := do
    gap
    if ← accept ',' then
      gap
      return !(← accept close)
    else
      expect close
      return false

/-- The rest of a list, after its opening bracket. -/
def listRest (value : Reader Datum) : Reader Datum := do
  return .list (← itemsUpTo ']' value)

/-- The rest of a table in braces, after the opening one. -/
def tableRest (value : Reader Datum) : Reader Datum := do
  match Tree.addAll [] (← itemsUpTo '\x7d' (pair gap value)) with
  | some t => return t.datum
  | none => failure

/-- A value, given how the values in lists and tables are read, if there may be any. -/
def valueWith (inner : Option (Reader Datum)) : Reader Datum := do
  match ← next? with
  | some '"' | some '\x27' => return .text (String.ofList (← quotation))
  | some '[' =>
    let some value := inner | failure
    expect '['
    listRest value
  | some '\x7b' =>
    let some value := inner | failure
    expect '\x7b'
    tableRest value
  | _ => scalar

/-- A value with lists and tables nested at most so deep. -/
def value : Nat → Reader Datum
  | 0 => valueWith none
  | depth + 1 => valueWith (some (value depth))

/-! ### Statements -/

/-- One statement. -/
inductive Statement where
  /-- A value under a key. -/
  | entry (key : Key) (value : Datum)
  /-- The header of a table. -/
  | header (key : Key)
  /-- The header of a further table in a list of tables. -/
  | listHeader (key : Key)
deriving Repr

/-- The key in a header, with the blanks around it. -/
def headerKey : Reader Key := do
  blanks
  let k ← key
  blanks
  expect ']'
  return k

/-- A statement. -/
def statement : Reader Statement := do
  if ← accept '[' then
    if ← accept '[' then
      let k ← headerKey
      expect ']'
      return .listHeader k
    else return .header (← headerKey)
  else
    let (k, d) ← pair blanks (value maxDepth)
    return .entry k d

/-- The statements up to the end of the text, at most `fuel`. -/
def statementsUpTo : Nat → Reader (List Statement)
  | 0 => failure
  | fuel + 1 => do
    gap
    if ← atEnd then return []
    let s ← statement
    lineEnd
    return s :: (← statementsUpTo fuel)

/-- The statements of a document.  A byte order mark may stand in front. -/
def statements (text : List Char) : Option (List Statement) :=
  let text := if text.head? = some '\uFEFF' then text.drop 1 else text
  readAll (statementsUpTo (text.length + 1)) text

/-! ### Tables -/

/-- The values up to the next header. -/
def valuesOf : List Statement → List (Key × Datum)
  | .entry k d :: rest => (k, d) :: valuesOf rest
  | _ => []

/-- Adds the tables of all headers with their values. -/
def addTables (t : Tree) : List Statement → Option Tree
  | [] => some t
  | .entry .. :: rest => addTables t rest
  | .header k :: rest => do addTables (← t.define k (valuesOf rest)) rest
  | .listHeader k :: rest => do addTables (← t.append k (valuesOf rest)) rest

/-- The document as a table. -/
def read (text : String) : Option Datum := do
  let all ← statements text.toList
  let t ← Tree.addAll [] (valuesOf all)
  return (← addTables t all).datum

end Toml

end ReplicaTrace
