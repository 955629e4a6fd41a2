import ReplicaTrace.Toml.Reader

/-!
# Strings

A string stands between quotes, double ones around text with escapes and single ones around text
without.  Three quotes in place of one allow for line ends in the text: a line end right after the
opening quotes is no part of it, every other one stands for itself, and a backslash at the end of a
line takes away all blanks and line ends that follow.

* `Toml.quotation` : any of the four kinds.
* `Toml.keyQuotation` : the two kinds on one line, which keys may have.
-/

namespace ReplicaTrace

namespace Toml

/-- The value of a hexadecimal digit. -/
def hexDigit? (c : Char) : Option Nat :=
  if c.isDigit then some (c.toNat - 0x30)
  else if 'a' ≤ c ∧ c ≤ 'f' then some (c.toNat - 0x61 + 10)
  else if 'A' ≤ c ∧ c ≤ 'F' then some (c.toNat - 0x41 + 10)
  else none

/-- The character with a number in hexadecimal digits; halves of surrogate pairs are none. -/
def charOfHex? (digits : List Char) : Option Char := do
  let n := (← digits.mapM hexDigit?).foldl (fun n d => n * 16 + d) 0
  if h : n.isValidChar then some (Char.ofNatAux n h) else none

/-- The character for a letter after a backslash. -/
def escaped? : Char → Option Char
  | 'b' => some '\x08'
  | 't' => some '\t'
  | 'n' => some '\n'
  | 'f' => some '\x0c'
  | 'r' => some '\r'
  | 'e' => some '\x1b'
  | '"' => some '"'
  | '\\' => some '\\'
  | _ => none

/-- What a reading function gives after a character in front. -/
def andThen (c : Option Char) (r : Option (List Char × List Char)) :
    Option (List Char × List Char) := do
  let (text, rest) ← r
  return ((← c) :: text, rest)

/-- The rest of a string with escapes, after its opening quote. -/
def basic : List Char → Option (List Char × List Char)
  | [] => none
  | '"' :: rest => some ([], rest)
  | '\\' :: 'x' :: a :: b :: rest => andThen (charOfHex? [a, b]) (basic rest)
  | '\\' :: 'u' :: a :: b :: c :: d :: rest => andThen (charOfHex? [a, b, c, d]) (basic rest)
  | '\\' :: 'U' :: a :: b :: c :: d :: e :: f :: g :: h :: rest =>
    andThen (charOfHex? [a, b, c, d, e, f, g, h]) (basic rest)
  | '\\' :: e :: rest => andThen (escaped? e) (basic rest)
  | c :: rest => if isPlain c then andThen (some c) (basic rest) else none

/-- The rest of a string without escapes, after its opening quote. -/
def literal : List Char → Option (List Char × List Char)
  | [] => none
  | '\x27' :: rest => some ([], rest)
  | c :: rest => if isPlain c then andThen (some c) (literal rest) else none

/-- A line end comes next, perhaps after blanks. -/
def endsLine (cs : List Char) : Bool :=
  (Reader.newline (cs.dropWhile isInlineBlank)).isSome

/-- The rest of a string with escapes over several lines.  While `joining` a backslash at the end of
a line takes away what follows.  Of five quotes or four at the end, three close the string. -/
def multiBasic (joining : Bool) : List Char → Option (List Char × List Char)
  | [] => none
  | '\n' :: rest =>
    if joining then multiBasic true rest else andThen (some '\n') (multiBasic false rest)
  | '\r' :: '\n' :: rest =>
    if joining then multiBasic true rest
    else andThen (some '\r') (andThen (some '\n') (multiBasic false rest))
  | '"' :: '"' :: '"' :: '"' :: '"' :: rest => some (['"', '"'], rest)
  | '"' :: '"' :: '"' :: '"' :: rest => some (['"'], rest)
  | '"' :: '"' :: '"' :: rest => some ([], rest)
  | '\\' :: 'x' :: a :: b :: rest => andThen (charOfHex? [a, b]) (multiBasic false rest)
  | '\\' :: 'u' :: a :: b :: c :: d :: rest =>
    andThen (charOfHex? [a, b, c, d]) (multiBasic false rest)
  | '\\' :: 'U' :: a :: b :: c :: d :: e :: f :: g :: h :: rest =>
    andThen (charOfHex? [a, b, c, d, e, f, g, h]) (multiBasic false rest)
  | '\\' :: e :: rest =>
    if endsLine (e :: rest) then multiBasic true (e :: rest)
    else andThen (escaped? e) (multiBasic false rest)
  | c :: rest =>
    if joining && isInlineBlank c then multiBasic true rest
    else if isPlain c then andThen (some c) (multiBasic false rest)
    else none

/-- The rest of a string without escapes over several lines. -/
def multiLiteral : List Char → Option (List Char × List Char)
  | [] => none
  | '\n' :: rest => andThen (some '\n') (multiLiteral rest)
  | '\r' :: '\n' :: rest => andThen (some '\r') (andThen (some '\n') (multiLiteral rest))
  | '\x27' :: '\x27' :: '\x27' :: '\x27' :: '\x27' :: rest => some (['\x27', '\x27'], rest)
  | '\x27' :: '\x27' :: '\x27' :: '\x27' :: rest => some (['\x27'], rest)
  | '\x27' :: '\x27' :: '\x27' :: rest => some ([], rest)
  | c :: rest => if isPlain c then andThen (some c) (multiLiteral rest) else none

/-- The text without a line end at its start. -/
def dropNewline : List Char → List Char
  | '\n' :: rest => rest
  | '\r' :: '\n' :: rest => rest
  | cs => cs

/-- A string on one line. -/
def keyQuotation : List Char → Option (List Char × List Char)
  | '"' :: rest => basic rest
  | '\x27' :: rest => literal rest
  | _ => none

/-- A string. -/
def quotation : List Char → Option (List Char × List Char)
  | '"' :: '"' :: '"' :: rest => multiBasic false (dropNewline rest)
  | '\x27' :: '\x27' :: '\x27' :: rest => multiLiteral (dropNewline rest)
  | cs => keyQuotation cs

end Toml

end ReplicaTrace
