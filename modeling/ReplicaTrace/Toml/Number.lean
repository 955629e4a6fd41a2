import ReplicaTrace.Datum
import ReplicaTrace.Toml.Quotation

/-!
# Numbers

Whole numbers are decimal with an optional sign and no needless zero in front, or hexadecimal, octal
or binary without a sign.  A number with a fraction, an exponent or both is decimal.  An underscore
may stand between any two digits.

A text that begins like a whole number is taken for one before all of its characters are looked at.
If it turns out to be none, it is a number out of bounds, as one with too many digits is.

* `Toml.isGrouped` : underscores stand only where they may.
* `Toml.prefixed?`, `Toml.whole?`, `Toml.fraction?` : the three kinds of numbers.
* `Toml.number?` : any number.
-/

namespace ReplicaTrace

namespace Toml

/-! ### Digits -/

/-- Every underscore is followed by a digit and has one before it; for an underscore at the start,
`after` tells whether a digit is before it. -/
def isGroupedAfter (isDigit : Char → Bool) (after : Bool) : List Char → Bool
  | [] => true
  | ['_'] => false
  | '_' :: c :: cs => after && isDigit c && isGroupedAfter isDigit true cs
  | c :: cs => isGroupedAfter isDigit (isDigit c) cs

/-- Every underscore stands between two digits. -/
def isGrouped (isDigit : Char → Bool) (cs : List Char) : Bool :=
  isGroupedAfter isDigit false cs

/-- The text without underscores. -/
def ungrouped (cs : List Char) : List Char :=
  cs.filter (· != '_')

/-- A digit of the largest base. -/
def isHexDigit (c : Char) : Bool :=
  (hexDigit? c).isSome

/-- The value of a digit in a base. -/
def digitIn? (base : Nat) (c : Char) : Option Nat :=
  (hexDigit? c).filter (· < base)

/-- The values of digits in a base; there may be none. -/
def digits? (base : Nat) (cs : List Char) : Option (List Nat) :=
  cs.mapM (digitIn? base)

/-- The number with the digits in a base. -/
def ofDigits (base : Nat) (ds : List Nat) : Nat :=
  ds.foldl (fun n d => n * base + d) 0

/-- The value of decimal digits, of which there has to be one. -/
def decimal? (cs : List Char) : Option Nat :=
  if cs.isEmpty then none else (digits? 10 cs).map (ofDigits 10)

/-! ### Whole numbers -/

/-- The sign in front of a number, if it has one, and what follows. -/
def takeSign : List Char → Option Char × List Char
  | '+' :: cs => (some '+', cs)
  | '-' :: cs => (some '-', cs)
  | cs => (none, cs)

/-- The number with a sign in front. -/
def signed (sign : Option Char) (n : Nat) : Int :=
  if sign = some '-' then -n else n

/-- The whole number as a value, if there is one and 128 bits can hold it, with a sign or without. -/
def integerDatum (n : Option Int) : Datum :=
  match n with
  | some n =>
    if -Int.ofNat (Nat.pow 2 127) ≤ n ∧ n < Int.ofNat (Nat.pow 2 128) then .integer n
    else .outOfBounds
  | none => .outOfBounds

/-- A whole number in the digits of a base.  Without any digit it is out of bounds. -/
def inBase? (base : Nat) (cs : List Char) : Option Datum := do
  if isGrouped isHexDigit cs then
    let ds ← digits? base (ungrouped cs)
    return integerDatum (if ds.isEmpty then none else some (ofDigits base ds))
  else none

/-- A whole number with its base in front. -/
def prefixed? : List Char → Option Datum
  | '0' :: 'x' :: cs => inBase? 16 cs
  | '0' :: 'o' :: cs => inBase? 8 cs
  | '0' :: 'b' :: cs => inBase? 2 cs
  | _ => none

/-- A zero stands in front of more. -/
def hasNeedlessZero (cs : List Char) : Bool :=
  cs.head? == some '0' && 1 < cs.length

/-- A character that makes a number no whole number, or a text no number. -/
def isUnlikeWhole (c : Char) : Bool :=
  c == '.' || c == 'e' || c == 'E' || c == ' '

/-- A decimal whole number.  What follows its first digits, if there is anything, begins with an
underscore, and may hold almost all characters so long as digits of the largest base stand beside
the underscores. -/
def whole? (cs : List Char) : Option Datum :=
  let (sign, cs) := takeSign cs
  let rest := cs.dropWhile Char.isDigit
  if cs.isEmpty || hasNeedlessZero cs || rest.any isUnlikeWhole then none
  else if rest.isEmpty || (rest.head? == some '_' && isGrouped isHexDigit cs) then
    some (integerDatum ((decimal? (ungrouped cs)).map (signed sign)))
  else none

/-! ### Numbers with a fraction -/

/-- The first number that 64 bits cannot hold: the middle between the largest that they can and the
one that would come after it. -/
def tooLarge : Nat := Nat.pow 2 1024 - Nat.pow 2 970

/-- A number, written as `mantissa * 10 ^ exponent`, is not too large.  Below the point no more
places count than the mantissa has. -/
def isModerate (mantissa : Nat) (exponent : Int) : Bool :=
  if mantissa = 0 then true
  else if 0 ≤ exponent then exponent ≤ 308 && mantissa * Nat.pow 10 exponent.toNat < tooLarge
  else mantissa < tooLarge * Nat.pow 10 (min (-exponent).toNat mantissa.log2)

/-- The exponent of a number, with its sign. -/
def exponent? (cs : List Char) : Option Int := do
  let (sign, cs) := takeSign cs
  return signed sign (← decimal? cs)

/-- A decimal number without underscores, with its point or exponent.  There are digits on both sides
of a point. -/
def pointed? (cs : List Char) : Option Datum := do
  let (before, exponent) := cs.span fun c => c != 'e' && c != 'E'
  let (whole, fraction) := before.span (· != '.')
  let places := fraction.drop 1
  if whole.isEmpty ∨ hasNeedlessZero whole ∨ fraction = ['.'] ∨
      fraction.isEmpty ∧ exponent.isEmpty then none
  else
    let mantissa ← decimal? (whole ++ places)
    let exponent ← if exponent.isEmpty then some 0 else exponent? (exponent.drop 1)
    return if isModerate mantissa (exponent - places.length) then .fraction else .outOfBounds

/-- A number that is not whole, or not written as a whole number. -/
def fraction? (cs : List Char) : Option Datum :=
  let (_, cs) := takeSign cs
  if cs = "inf".toList ∨ cs = "nan".toList then some .fraction
  else if isGrouped Char.isDigit cs then pointed? (ungrouped cs)
  else none

/-- A number. -/
def number? (cs : List Char) : Option Datum :=
  (prefixed? cs).or ((whole? cs).or (fraction? cs))

end Toml

end ReplicaTrace
