import ReplicaTrace.Text.Decimal
import ReplicaTrace.Text.Order

/-!
# Server ids

A server goes by the id that its log gives it, such as `0`, `2` or `1.3`.  In the *natural order*
ids are compared segment by segment between the points: two segments that are numbers below `2^64`
by their values, any other two as texts, so that `1.10` comes after `1.9` and `10` after `2`.  An id
that ends first comes first.
-/

namespace ReplicaTrace

open Text

/-- The id of a server. -/
structure ServerId where
  /-- The id as the log gives it. -/
  text : String
deriving DecidableEq, Repr

/-- Compares two segments of ids: numbers by value, all else as text. -/
def compareSegment (a b : List Char) : Ordering :=
  match readNat max64 a, readNat max64 b with
  | .ok x, .ok y => compare x y
  | _, _ => compareText a b

/-- Compares ids that were cut into segments. -/
def compareSegments : List (List Char) → List (List Char) → Ordering
  | [], [] => .eq
  | [], _ :: _ => .lt
  | _ :: _, [] => .gt
  | a :: as, b :: bs => (compareSegment a b).then (compareSegments as bs)

namespace ServerId

/-- The parts of the id between the points. -/
def segments (id : ServerId) : List (List Char) :=
  id.text.toList.splitOn '.'

/-- The natural order of ids. -/
def naturalCompare (a b : ServerId) : Ordering :=
  compareSegments a.segments b.segments

/-- In the natural order `a` does not come after `b`. -/
def naturalLe (a b : ServerId) : Bool :=
  (naturalCompare a b).isLE

end ServerId

/-! ### Comparing twice -/

theorem compareSegment_swap (a b : List Char) :
    (compareSegment a b).swap = compareSegment b a := by
  unfold compareSegment
  split
  · next h₁ h₂ => simp [h₁, h₂, Nat.compare_swap]
  · next h =>
    split
    · next h₁ h₂ => exact absurd h₁ (h _ _ h₂)
    · exact compareText_swap a b

/-- Comparing the other way round turns the answer round. -/
theorem compareSegments_swap (a b : List (List Char)) :
    (compareSegments a b).swap = compareSegments b a := by
  induction a generalizing b with
  | nil => cases b <;> rfl
  | cons x xs ih =>
    cases b with
    | nil => rfl
    | cons y ys => simp [compareSegments, Ordering.swap_then, ih, compareSegment_swap]

end ReplicaTrace
