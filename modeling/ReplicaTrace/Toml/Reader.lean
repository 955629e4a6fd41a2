/-!
# Reading from the start of a text

A `Reader` takes a value from the start of a text and leaves the rest, or fails.  The readers here
are about what may stand between values: blanks, comments and line ends.

* `Reader.blanks` : spaces and tabs.
* `Reader.gap` : blanks, line ends and comments, as many as there are.
* `Reader.lineEnd` : all up to the end of a line, which may hold blanks and a comment.
* `Reader.separated` : values with something between them.
-/

namespace ReplicaTrace

namespace Toml

/-- Takes a value from the start of a text. -/
abbrev Reader := StateT (List Char) Option

/-- A space or a tab. -/
def isInlineBlank (c : Char) : Bool :=
  c == ' ' || c == '\t'

/-- A character that may stand for itself in a comment or a string: a tab, or anything that is no
control character of ASCII. -/
def isPlain (c : Char) : Bool :=
  c == '\t' || (0x20 ≤ c.toNat && c.toNat != 0x7F)

namespace Reader

/-- Takes the longest start of which every character has the property. -/
def takeWhile (p : Char → Bool) : Reader (List Char) := fun cs =>
  some (cs.takeWhile p, cs.dropWhile p)

/-- Takes a character if it comes next, and tells whether it did. -/
def accept (c : Char) : Reader Bool := fun cs =>
  match cs with
  | d :: rest => if d = c then some (true, rest) else some (false, cs)
  | [] => some (false, cs)

/-- Takes a character, which has to come next. -/
def expect (c : Char) : Reader Unit := do
  unless ← accept c do failure

/-- The next character. -/
def next? : Reader (Option Char) := return (← get).head?

/-- Nothing is left. -/
def atEnd : Reader Bool := return (← get).isEmpty

/-- Takes spaces and tabs. -/
def blanks : Reader Unit := do
  let _ ← takeWhile isInlineBlank

/-- Takes a comment, up to the end of its line. -/
def comment : Reader Unit := do
  if (← next?) = some '#' then
    let _ ← takeWhile isPlain

/-- Takes a line end: a line feed, perhaps with a carriage return before it. -/
def newline : List Char → Option (Unit × List Char)
  | '\n' :: rest => some ((), rest)
  | '\r' :: '\n' :: rest => some ((), rest)
  | _ => none

/-- Takes all up to the end of the line or of the text. -/
def lineEnd : Reader Unit := do
  blanks
  comment
  unless ← atEnd do newline

/-- Takes blanks, line ends and comments; in a comment all but a line end belongs to it. -/
def skipGap (inComment : Bool) : List Char → Option (Unit × List Char)
  | [] => some ((), [])
  | '\n' :: rest => skipGap false rest
  | '\r' :: '\n' :: rest => skipGap false rest
  | c :: rest =>
    if inComment then if isPlain c then skipGap true rest else none
    else if isInlineBlank c then skipGap false rest
    else if c = '#' then skipGap true rest
    else some ((), c :: rest)

/-- Takes blanks, line ends and comments. -/
def gap : Reader Unit := skipGap false

/-- Takes a value, and more as long as `more` tells that one follows; at most `fuel` values. -/
def separatedUpTo {α : Type} (value : Reader α) (more : Reader Bool) : Nat → Reader (List α)
  | 0 => failure
  | fuel + 1 => do
    let a ← value
    if ← more then return a :: (← separatedUpTo value more fuel) else return [a]

/-- Takes a value, and more as long as `more` tells that one follows. -/
def separated {α : Type} (value : Reader α) (more : Reader Bool) : Reader (List α) := do
  separatedUpTo value more ((← get).length + 1)

/-- The value of a text that a reader takes as a whole. -/
def readAll {α : Type} (r : Reader α) (text : List Char) : Option α :=
  match r.run text with
  | some (a, []) => some a
  | _ => none

end Reader

end Toml

end ReplicaTrace
