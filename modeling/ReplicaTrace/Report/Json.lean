/-!
# JSON

The values of which reports are made, and their text: two spaces for each level, one value or field
on a line, and empty lists and objects without a line of their own.  In strings only the quote, the
backslash and control characters are escaped.
-/

namespace ReplicaTrace

namespace Report

/-- A value in a report. -/
inductive Json where
  | text (s : String)
  | number (n : Int)
  | boolean (b : Bool)
  | list (items : List Json)
  /-- Named values, in the order in which they are written. -/
  | object (fields : List (String × Json))
deriving Repr

namespace Json

/-- A natural number. -/
def nat (n : Nat) : Json := number n

/-- A list of texts. -/
def texts (ss : List String) : Json := list (ss.map text)

/-- A control character by its number. -/
def controlChar (c : Char) : List Char :=
  let digits := Nat.toDigits 16 c.toNat
  ['\\', 'u'] ++ List.replicate (4 - digits.length) '0' ++ digits

/-- How a character stands in a string. -/
def escape (c : Char) : List Char :=
  match c with
  | '"' => ['\\', '"']
  | '\\' => ['\\', '\\']
  | '\x08' => ['\\', 'b']
  | '\x0c' => ['\\', 'f']
  | '\n' => ['\\', 'n']
  | '\r' => ['\\', 'r']
  | '\t' => ['\\', 't']
  | c => if c.toNat < 0x20 then controlChar c else [c]

/-- The text of a string. -/
def quote (s : String) : String :=
  String.ofList ('"' :: (s.toList.flatMap escape ++ ['"']))

/-- The start of a line. -/
def indentation (level : Nat) : String :=
  String.ofList (List.replicate (2 * level) ' ')

/-- Lines between brackets, or the brackets alone if there are none. -/
def bracketed (level : Nat) (opening closing : String) (items : List String) : String :=
  if items.isEmpty then opening ++ closing
  else
    let lines := items.map fun item => "\n" ++ indentation (level + 1) ++ item
    opening ++ ",".intercalate lines ++ "\n" ++ indentation level ++ closing

mutual

/-- The text of a value that starts on a line of the given level. -/
def render (level : Nat) : Json → String
  | text s => quote s
  | number n => toString n
  | boolean true => "true"
  | boolean false => "false"
  | list items => bracketed level "[" "]" (renderAll (level + 1) items)
  | object fields => bracketed level "\x7b" "\x7d" (renderFields (level + 1) fields)

/-- The texts of values. -/
def renderAll (level : Nat) : List Json → List String
  | [] => []
  | v :: vs => render level v :: renderAll level vs

/-- The texts of fields. -/
def renderFields (level : Nat) : List (String × Json) → List String
  | [] => []
  | (name, v) :: fields => (quote name ++ ": " ++ render level v) :: renderFields level fields

end

end Json

end Report

end ReplicaTrace
