import ReplicaTrace.Server.Registry

/-!
# Snapshots

A snapshot is the state of the whole cluster after one event: for every server its role, its current
slot, its log, and the slot and ballot that it reported last.  Each of these is a column with one
entry per server, in the order of the registry; a snapshot is *well formed* when every column has
as many entries as there are servers.
-/

namespace ReplicaTrace

/-- The slot and the ballot that a server reported last. -/
structure Progress where
  /-- The slot. -/
  slot : Nat
  /-- The round of the ballot. -/
  ballot : Int
deriving DecidableEq, Repr

/-- The slot and the ballot before the first report. -/
def Progress.start : Progress := ⟨0, 0⟩

/-- One record of a server's log. -/
structure Entry where
  /-- The server. -/
  server : ServerId
  /-- The server was leader when it added the record. -/
  active : Bool
  /-- The slot of the record. -/
  slot : Nat
  /-- The ballot of the record. -/
  ballot : Int
deriving DecidableEq, Repr

/-- The state of the cluster after one event, or before the first. -/
structure Snapshot where
  /-- The number of servers. -/
  size : Nat
  /-- The label of the action that led here, empty before the first event. -/
  action : String
  /-- The index of the acting server. -/
  actor : Option Nat
  /-- Where the event is reported. -/
  location : Option String
  /-- The current slots. -/
  slots : List Nat
  /-- The logs, each from its oldest record to its newest. -/
  logs : List (List Entry)
  /-- The roles. -/
  roles : List Role
  /-- The last reports. -/
  progress : List Progress
deriving DecidableEq, Repr

namespace Snapshot

/-- Before the first event every server is a follower at slot `0` with an empty log. -/
def initial (size : Nat) : Snapshot where
  size := size
  action := ""
  actor := none
  location := none
  slots := List.replicate size 0
  logs := List.replicate size []
  roles := List.replicate size .follower
  progress := List.replicate size .start

variable (s : Snapshot)

/-- The current slot of a server. -/
def slotOf (server : Nat) : Nat := s.slots[server]?.getD 0

/-- The log of a server. -/
def logOf (server : Nat) : List Entry := s.logs[server]?.getD []

/-- The role of a server. -/
def roleOf (server : Nat) : Role := s.roles[server]?.getD .follower

/-- The last report of a server. -/
def progressOf (server : Nat) : Progress := s.progress[server]?.getD .start

/-- The indices of the leaders. -/
def leaders : List Nat :=
  (s.roles.zipIdx.filter (·.1 == .leader)).map Prod.snd

/-- Every column has one entry for each server. -/
def wellFormed : Bool :=
  s.slots.length == s.size && s.logs.length == s.size && s.roles.length == s.size &&
    s.progress.length == s.size

theorem wellFormed_iff : s.wellFormed = true ↔ s.slots.length = s.size ∧ s.logs.length = s.size ∧
    s.roles.length = s.size ∧ s.progress.length = s.size := by
  simp [wellFormed, and_assoc]

end Snapshot

end ReplicaTrace
