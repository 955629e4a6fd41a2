import ReplicaTrace.Log.Line
import ReplicaTrace.Server.Id

/-!
# Events

An event is one step of the consensus protocol as a replica reported it: an action of a server with
the slot and the round of the ballot that the server was then at.  Actions with a meaning for the
history are told apart by name; every other label is kept as it is.
-/

namespace ReplicaTrace

/-- What a replica is at one point of the history. -/
inductive Role where
  | leader
  | follower
deriving DecidableEq, Repr

/-- The name of the role. -/
def Role.name : Role → String
  | .leader => "Leader"
  | .follower => "Follower"

/-- A step of the protocol. -/
inductive Action where
  /-- The replica takes the lead. -/
  | becomeLeader
  /-- The replica gives up the lead. -/
  | becomeFollower
  /-- The leader asks for promises with a new ballot. -/
  | p1a
  /-- A replica promises. -/
  | p1b
  /-- The leader proposes a value for a slot. -/
  | p2a
  /-- A replica accepts a slot. -/
  | p2b
  /-- A slot is committed. -/
  | p3
  /-- Any other label. -/
  | other (label : String)
deriving DecidableEq, Repr

namespace Action

/-- The action with the label. -/
def ofLabel (label : String) : Action :=
  if label = "BecomeLeader" then becomeLeader
  else if label = "BecomeFollower" then becomeFollower
  else if label = "P1a" then p1a
  else if label = "P1b" then p1b
  else if label = "P2a" then p2a
  else if label = "P2b" then p2b
  else if label = "P3" then p3
  else other label

/-- The label of the action. -/
def label : Action → String
  | becomeLeader => "BecomeLeader"
  | becomeFollower => "BecomeFollower"
  | p1a => "P1a"
  | p1b => "P1b"
  | p2a => "P2a"
  | p2b => "P2b"
  | p3 => "P3"
  | other label => label

/-- The action has no meaning of its own for the history. -/
def isOther : Action → Bool
  | other _ => true
  | _ => false

/-- The role that the acting replica takes on. -/
def newRole? : Action → Option Role
  | becomeLeader => some .leader
  | becomeFollower => some .follower
  | _ => none

/-- The action moves the replica to its slot and adds to its log. -/
def advances : Action → Bool
  | p2a | p2b | p3 => true
  | _ => false

end Action

/-- One step of the protocol, as reported in a log. -/
structure Event where
  /-- Milliseconds since the start of 1970. -/
  time : Int
  /-- The file that reports the event. -/
  source : Source
  /-- The number of the line in its file. -/
  line : Nat
  /-- The line itself. -/
  raw : String
  /-- What was done. -/
  action : Action
  /-- The acting server. -/
  server : ServerId
  /-- The slot that the server was at. -/
  slot : Nat
  /-- The round of the ballot that the server was at. -/
  ballot : Int
deriving DecidableEq, Repr

/-- Where the event is reported, as file and line. -/
def Event.location (e : Event) : String :=
  s!"{e.source.location}:{e.line}"

end ReplicaTrace
