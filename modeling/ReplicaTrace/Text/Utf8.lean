/-!
# Text in bytes

A sequence of bytes is cut into *pieces*: the encoding of one character (UTF-8), or a longest run
of bytes that could start such an encoding but does not go on as one.  Three readings of the bytes
come from the pieces:

* `decode?` : the text, if every piece is a character.
* `validLength` : how many bytes belong to characters before the first piece that is none.
* `lossy` : the text in which each ill-formed piece is the replacement character.

Writing is `encode`.
-/

namespace ReplicaTrace

/-- A sequence of bytes, such as the content of a file. -/
abbrev Bytes := List UInt8

namespace Utf8

/-- One step of reading: a character of some bytes, or some bytes that are none. -/
inductive Piece where
  /-- The character that `size` bytes encode. -/
  | char (c : Char) (size : Nat)
  /-- Bytes that could start an encoding and do not go on as one. -/
  | illFormed (size : Nat)
deriving DecidableEq, Repr

/-- The character of a piece, with the replacement character for an ill-formed one. -/
def Piece.toChar : Piece → Char
  | .char c _ => c
  | .illFormed _ => '\uFFFD'

/-- The character of a piece that is one. -/
def Piece.char? : Piece → Option Char
  | .char c _ => some c
  | .illFormed _ => none

/-- The byte goes on with an encoding: it is `10xxxxxx`. -/
def isTail (b : UInt8) : Bool :=
  0x80 ≤ b && b ≤ 0xBF

/-- The six bits that a byte `10xxxxxx` carries. -/
def tailBits (b : UInt8) : Nat :=
  b.toNat - 0x80

/-- Which bytes may come second after the first byte of a longer encoding.  The narrower bounds
keep out encodings that are longer than needed, surrogates, and numbers above `10FFFF`. -/
def isSecond (first second : UInt8) : Bool :=
  if first == 0xE0 then 0xA0 ≤ second && second ≤ 0xBF
  else if first == 0xED then 0x80 ≤ second && second ≤ 0x9F
  else if first == 0xF0 then 0x90 ≤ second && second ≤ 0xBF
  else if first == 0xF4 then 0x80 ≤ second && second ≤ 0x8F
  else isTail second

/-- The byte may come after `size` bytes of an encoding that started with `first`. -/
def mayFollow (first : UInt8) (size : Nat) (b : UInt8) : Bool :=
  if size = 1 then isSecond first b else isTail b

/-- What the first byte of an encoding carries, and how many bytes must follow it. -/
def lead (b : UInt8) : Option (Nat × Nat) :=
  if b ≤ 0x7F then some (b.toNat, 0)
  else if 0xC2 ≤ b && b ≤ 0xDF then some (b.toNat - 0xC0, 1)
  else if 0xE0 ≤ b && b ≤ 0xEF then some (b.toNat - 0xE0, 2)
  else if 0xF0 ≤ b && b ≤ 0xF4 then some (b.toNat - 0xF0, 3)
  else none

/-- Goes on with an encoding that started with `first`: `bits` are those of the `size` bytes read,
and `missing` more bytes belong to it. -/
def follow (first : UInt8) (bits size missing : Nat) (rest : Bytes) : Piece × Bytes :=
  match missing, rest with
  | 0, rest => (.char (Char.ofNat bits) size, rest)
  | _ + 1, [] => (.illFormed size, [])
  | n + 1, b :: rest =>
    if mayFollow first size b then
      follow first (bits * 64 + tailBits b) (size + 1) n rest
    else (.illFormed size, b :: rest)

/-- The piece at the start of the bytes, and the bytes after it. -/
def next (b : UInt8) (rest : Bytes) : Piece × Bytes :=
  match lead b with
  | some (bits, missing) => follow b bits 1 missing rest
  | none => (.illFormed 1, rest)

theorem length_follow_le (first : UInt8) (bits size missing : Nat) (rest : Bytes) :
    (follow first bits size missing rest).2.length ≤ rest.length := by
  induction missing generalizing bits size rest with
  | zero => simp [follow]
  | succ n ih =>
    cases rest with
    | nil => simp [follow]
    | cons b rest =>
      simp only [follow]
      split
      · exact Nat.le_succ_of_le (ih _ _ _)
      · exact Nat.le_refl _

/-- A piece takes at least one byte. -/
theorem length_next_le (b : UInt8) (rest : Bytes) : (next b rest).2.length ≤ rest.length := by
  unfold next
  split
  · exact length_follow_le _ _ _ _ _
  · exact Nat.le_refl _

/-- The pieces of the bytes, in order. -/
def pieces : Bytes → List Piece
  | [] => []
  | b :: rest => (next b rest).1 :: pieces (next b rest).2
termination_by bs => bs.length
decreasing_by
  have := length_next_le b rest
  simp only [List.length_cons]
  omega

/-- The text that the bytes encode, if they encode one. -/
def decode? (bs : Bytes) : Option (List Char) :=
  (pieces bs).mapM Piece.char?

/-- The number of bytes before the first piece that is no character. -/
def validLength (bs : Bytes) : Nat :=
  go (pieces bs)
where
  go : List Piece → Nat
    | .char _ size :: ps => size + go ps
    | _ => 0

/-- The text with the replacement character for each ill-formed piece. -/
def lossy (bs : Bytes) : List Char :=
  (pieces bs).map Piece.toChar

/-- The bytes that encode the text. -/
def encode (cs : List Char) : Bytes :=
  cs.flatMap String.utf8EncodeChar

/-! ### First steps -/

theorem pieces_nil : pieces [] = [] := by
  simp [pieces]

theorem pieces_cons (b : UInt8) (rest : Bytes) :
    pieces (b :: rest) = (next b rest).1 :: pieces (next b rest).2 := by
  rw [pieces]

end Utf8

end ReplicaTrace
