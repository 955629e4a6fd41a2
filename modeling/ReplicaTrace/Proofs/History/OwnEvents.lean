import Mathlib.Data.List.Induction
import ReplicaTrace.History.Replay

/-!
# What a server's own events say

The state of a server is determined by its own events.  The functions of this file read it off
them, without going through the events one after the other and changing a state:

* `lastReport` : slot and ballot of the last event;
* `roleAfter` : the role that the last change of role gave;
* `slotAfter` : the slot of the last event that moves the slot;
* `logAfter` : one record for each event that moves the slot.

Each comes with what one more event does to it.
-/

namespace ReplicaTrace

/-- The events of a server, in their order. -/
def ownEvents (id : ServerId) (events : List Event) : List Event :=
  events.filter fun e => decide (e.server = id)

/-- Every event with the events before it. -/
def withPast (events : List Event) : List (List Event × Event) :=
  events.mapIdx fun i e => (events.take i, e)

/-- The server takes the lead or gives it up. -/
def Event.changesRole (e : Event) : Bool :=
  decide (e.action = .becomeLeader ∨ e.action = .becomeFollower)

/-- The server proposes, accepts or commits its slot. -/
def Event.movesSlot (e : Event) : Bool :=
  decide (e.action = .p2a ∨ e.action = .p2b ∨ e.action = .p3)

/-- Slot and ballot of the last event. -/
def lastReport (own : List Event) : Progress :=
  match own.getLast? with
  | none => ⟨0, 0⟩
  | some e => ⟨e.slot, e.ballot⟩

/-- The role that the last change of role gave. -/
def roleAfter (own : List Event) : Role :=
  match (own.filter Event.changesRole).getLast? with
  | none => .follower
  | some e => if e.action = .becomeLeader then .leader else .follower

/-- The slot of the last event that moves the slot. -/
def slotAfter (own : List Event) : ℕ :=
  match (own.filter Event.movesSlot).getLast? with
  | none => 0
  | some e => e.slot

/-- The record that an event with the given events before it leaves in the log. -/
def recordOf (past : List Event) (e : Event) : Entry where
  server := e.server
  active := decide (roleAfter (past ++ [e]) = .leader)
  slot := e.slot
  ballot := e.ballot

/-- One record for each event that moves the slot; it is active if the server is leader then. -/
def logAfter (own : List Event) : List Entry :=
  ((withPast own).filter fun p => p.2.movesSlot).map fun p => recordOf p.1 p.2

/-! ### One more event -/

variable (own : List Event) (e : Event)

theorem getElem?_withPast (events : List Event) (i : ℕ) :
    (withPast events)[i]? = events[i]?.map fun e => (events.take i, e) := by
  simp [withPast]

@[simp] theorem length_withPast (events : List Event) :
    (withPast events).length = events.length := by
  simp [withPast]

@[simp] theorem withPast_nil : withPast [] = [] := rfl

@[simp] theorem withPast_concat (events : List Event) :
    withPast (events ++ [e]) = withPast events ++ [(events, e)] := by
  rw [withPast, List.mapIdx_append, withPast]
  congr 1
  · refine List.mapIdx_eq_mapIdx_iff.2 fun i hi => ?_
    rw [List.take_append_of_le_length (Nat.le_of_lt hi)]
  · simp

theorem ownEvents_concat_self (past : List Event) :
    ownEvents e.server (past ++ [e]) = ownEvents e.server past ++ [e] := by
  simp [ownEvents]

theorem ownEvents_concat_of_ne {id : ServerId} (past : List Event) (h : e.server ≠ id) :
    ownEvents id (past ++ [e]) = ownEvents id past := by
  simp [ownEvents, h]

@[simp] theorem lastReport_concat : lastReport (own ++ [e]) = ⟨e.slot, e.ballot⟩ := by
  simp [lastReport]

@[simp] theorem roleAfter_concat :
    roleAfter (own ++ [e]) = e.action.newRole?.getD (roleAfter own) := by
  unfold roleAfter
  rw [List.filter_append]
  cases h : e.action <;> simp [Event.changesRole, h, Action.newRole?]

@[simp] theorem slotAfter_concat :
    slotAfter (own ++ [e]) = if e.action.advances then e.slot else slotAfter own := by
  unfold slotAfter
  rw [List.filter_append]
  cases h : e.action <;> simp [Event.movesSlot, h, Action.advances]

@[simp] theorem logAfter_concat :
    logAfter (own ++ [e]) =
      if e.action.advances then logAfter own ++ [recordOf own e] else logAfter own := by
  unfold logAfter
  rw [withPast_concat, List.filter_append, List.map_append]
  cases h : e.action <;> simp [Event.movesSlot, h, Action.advances]

end ReplicaTrace
