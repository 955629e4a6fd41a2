import ReplicaTrace.History.Snapshot

/-!
# Replaying the stream

The events of the stream are applied one after the other, each to the snapshot that the one before
it left.  An event changes only what belongs to its server:

* an action that names a role gives the server that role;
* an action that advances sets the current slot and adds a record to the log, which is active when
  the server is leader after the event;
* slot and ballot of the event become the server's last report.

A slot or a ballot below the one of the last report is a *regression*.  It is noted, slot before
ballot, and the replay goes on with the lower value.

* `Snapshot.advance` : what one event makes of a snapshot.
* `Replay.apply` : one event, unless its server is not in the registry.
* `Replay.run` : all events, up to the first whose server is not in the registry.
* `Replay.applyInPlace` : one event, as changes to a replay that is kept and goes on being used.
* `Replay.feed` : one event in place, whatever becomes of it.
-/

namespace ReplicaTrace

/-- A value that went backwards: what it was before, and what it is in the event. -/
inductive Regression where
  | slot (last observed : Nat)
  | ballot (last observed : Int)
deriving DecidableEq, Repr

namespace Regression

/-- The name of the value. -/
def field : Regression → String
  | slot .. => "slot"
  | ballot .. => "ballot"

/-- The value before the event. -/
def last : Regression → Int
  | slot l _ => l
  | ballot l _ => l

/-- The value in the event. -/
def observed : Regression → Int
  | slot _ o => o
  | ballot _ o => o

/-- What is said about the regression. -/
def message (r : Regression) : String :=
  s!"{r.field} went from {r.last} to {r.observed}"

end Regression

/-- A regression in the history. -/
structure Violation where
  /-- The place of the snapshot in the history, from `0`. -/
  index : Nat
  /-- The index of the server. -/
  actor : Nat
  /-- The server. -/
  server : ServerId
  /-- What went backwards. -/
  regression : Regression
  /-- The event with the lower value. -/
  event : Event
deriving DecidableEq, Repr

/-- What is said about the violation. -/
def Violation.message (v : Violation) : String :=
  s!"snapshot {v.index}: server {v.server.text} {v.regression.message} " ++
    s!"({v.event.action.label} at {v.event.location})"

/-- The event names a server that is not in the registry. -/
structure UnknownServer where
  /-- The server. -/
  server : ServerId
  /-- Where the event is reported. -/
  location : String
deriving DecidableEq, Repr

/-- What is said about the event. -/
def UnknownServer.message (e : UnknownServer) : String :=
  s!"event at {e.location} names server {e.server.text}, which is not in the cluster"

/-! ### One event -/

/-- The regressions from the last report to an event, slot before ballot. -/
def regressions (last : Progress) (e : Event) : List Regression :=
  (if e.slot < last.slot then [.slot last.slot e.slot] else []) ++
    (if e.ballot < last.ballot then [.ballot last.ballot e.ballot] else [])

/-- The snapshot after an event of the server with index `actor`. -/
def Snapshot.advance (s : Snapshot) (actor : Nat) (e : Event) : Snapshot :=
  let role := e.action.newRole?.getD (s.roleOf actor)
  { size := s.size
    action := e.action.label
    actor := some actor
    location := some e.location
    roles := s.roles.set actor role
    slots := if e.action.advances then s.slots.set actor e.slot else s.slots
    logs :=
      if e.action.advances then
        s.logs.set actor (s.logOf actor ++ [⟨e.server, role == .leader, e.slot, e.ballot⟩])
      else s.logs
    progress := s.progress.set actor ⟨e.slot, e.ballot⟩ }

/-! ### All events -/

/-- The history of a cluster so far. -/
structure Replay where
  /-- The latest snapshot. -/
  current : Snapshot
  /-- One snapshot for each event, in their order. -/
  history : Array Snapshot
  /-- The regressions, in the order of their events. -/
  violations : Array Violation
deriving DecidableEq, Repr

namespace Replay

/-- Before the first event. -/
def start (size : Nat) : Replay := ⟨.initial size, #[], #[]⟩

/-- The snapshots, from the first event on. -/
def snapshots (p : Replay) : List Snapshot := p.history.toList

/-- Nothing went backwards. -/
def consistent (p : Replay) : Bool := p.violations.isEmpty

/-- Goes on with an event of the server with index `actor`. -/
def step (p : Replay) (actor : Nat) (e : Event) : Replay :=
  let next := p.current.advance actor e
  { current := next
    history := p.history.push next
    violations := p.violations ++
      (regressions (p.current.progressOf actor) e).map fun r =>
        (⟨p.history.size, actor, e.server, r, e⟩ : Violation) }

variable (r : Registry)

/-- Goes on with an event, whose server has to be in the registry. -/
def apply (p : Replay) (e : Event) : Except UnknownServer Replay :=
  match r.index? e.server with
  | some actor => .ok (p.step actor e)
  | none => .error ⟨e.server, e.location⟩

/-- Replays all events. -/
def run (events : List Event) : Except UnknownServer Replay :=
  events.foldlM (apply r) (start r.size)

/-! ### In place -/

/-- Programs that change a replay in place: what was changed before a fault stays changed. -/
abbrev InPlace := ExceptT UnknownServer (StateM Replay)

/-- Notes a regression of the server with index `actor` in the event that comes next. -/
def note (actor : Nat) (e : Event) (x : Regression) : InPlace Unit :=
  modify fun p =>
    { p with violations := p.violations.push ⟨p.history.size, actor, e.server, x, e⟩ }

/-- Goes on to the next snapshot. -/
def goOn (next : Snapshot) : InPlace Unit :=
  modify fun p => { p with current := next, history := p.history.push next }

/-- Goes on with an event in place: its server is looked up, the regressions are noted, and the
next snapshot is taken into the history. -/
def applyInPlace (e : Event) : InPlace Unit := do
  match r.index? e.server with
  | none => throw ⟨e.server, e.location⟩
  | some actor =>
    let p ← get
    forM (regressions (p.current.progressOf actor) e) (note actor e)
    goOn (p.current.advance actor e)

/-- Goes on with an event in place and does not mind a fault: the replay is as it was left. -/
def feed (p : Replay) (e : Event) : Replay :=
  ((applyInPlace r e).run.run p).2

end Replay

end ReplicaTrace
