import ReplicaTrace.History.Snapshot

/-!
# Digests of logs and snapshots

A log in one line: its records are numbered from `0`, and neighbours with the same slot are put
together as one *stretch*, as in `[slot 1 entry 0, slot 2 entries 1-2]`.  A snapshot has one line for
each server.
-/

namespace ReplicaTrace

/-- Neighbouring records of a log with the same slot. -/
structure Stretch where
  /-- The slot of all of them. -/
  slot : Nat
  /-- The number of the first record. -/
  first : Nat
  /-- How many records follow the first. -/
  more : Nat
deriving DecidableEq, Repr

namespace Stretch

/-- Adds a record in front of stretches that start with the next record. -/
def prepend (number : Nat) (slot : Nat) : List Stretch → List Stretch
  | s :: rest => if s.slot = slot then ⟨slot, number, s.more + 1⟩ :: rest
      else ⟨slot, number, 0⟩ :: s :: rest
  | [] => [⟨slot, number, 0⟩]

/-- The stretches of a log, given by its slots, when its first record has the number `number`. -/
def ofSlots (number : Nat) : List Nat → List Stretch
  | [] => []
  | slot :: slots => prepend number slot (ofSlots (number + 1) slots)

/-- The numbers of the stretch's records. -/
def text (s : Stretch) : String :=
  if s.more = 0 then s!"slot {s.slot} entry {s.first}"
  else s!"slot {s.slot} entries {s.first}-{s.first + s.more}"

end Stretch

/-- A log in one line. -/
def digestLog (log : List Entry) : String :=
  "[" ++ ", ".intercalate ((Stretch.ofSlots 0 (log.map Entry.slot)).map Stretch.text) ++ "]"

namespace Snapshot

/-- One server of a snapshot in one line. -/
def digestServer (s : Snapshot) (server : Nat) : String :=
  let log := s.logOf server
  s!"server {server}: state={(s.roleOf server).name}, slot={s.slotOf server}, log=" ++
    (if log.isEmpty then "empty" else digestLog log)

/-- A snapshot with one line for each server. -/
def digest (s : Snapshot) : String :=
  "\n".intercalate ((List.range s.size).map s.digestServer)

end Snapshot

end ReplicaTrace
