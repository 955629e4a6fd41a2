import ReplicaTrace.History.Replay
import ReplicaTrace.Run.SourceReport

/-!
# The ledger of a run

What a run has to say about its input, collected step by step: the files, the counts, everything
that was left out, and what went backwards in the history.
-/

namespace ReplicaTrace

/-- What a run has to say about its input. -/
structure Ledger where
  /-- The files, in their order. -/
  sources : List Source := []
  /-- The counts of all files together. -/
  tally : Tally := {}
  /-- What was left out. -/
  skipped : List Skipped := []
  /-- How many events were replayed. -/
  merged : Nat := 0
  /-- How many snapshots the history has. -/
  snapshots : Nat := 0
  /-- What went backwards in the history. -/
  violations : List Violation := []
deriving DecidableEq, Repr

namespace Ledger

/-- Adds the report of a file. -/
def absorb (l : Ledger) (r : SourceReport) : Ledger :=
  { l with
    sources := l.sources ++ r.source.toList
    tally := l.tally + r.tally
    skipped := l.skipped ++ r.skipped }

/-- Notes an event that is left out because the registry does not know its server. -/
def skipUnknown (l : Ledger) (e : Event) : Ledger :=
  { l with
    tally := l.tally + .skip .unknownServer
    skipped := l.skipped ++
      [⟨e.source.location, e.line, .unknownServer,
        s!"server {e.server.text} is not in the cluster"⟩] }

/-- Adds what the replay of the events gave. -/
def close (l : Ledger) (events : List Event) (replay : Replay) : Ledger :=
  { l with
    merged := events.length
    snapshots := replay.snapshots.length
    violations := replay.violations.toList }

/-- Nothing went backwards. -/
def consistent (l : Ledger) : Bool :=
  l.violations.isEmpty

end Ledger

end ReplicaTrace
