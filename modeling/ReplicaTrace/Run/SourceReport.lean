import ReplicaTrace.Event.OfLine
import ReplicaTrace.Log.Contents
import ReplicaTrace.Stream

/-!
# What one log file gives

A file is read, its lines are turned into events, and the events are put in the order of time.
What is left out is listed with the reason: first the lines that could not be read, then those that
give no event.

* `SourceReport.ofData` : the report of a file with the given content.
* `gather` : the reports of all files, in the order of the files' ranks, whatever the order in
  which they become ready; the first failure that becomes known is the failure of all.
-/

namespace ReplicaTrace

/-- A line or an event that is not part of the trace. -/
structure Skipped where
  /-- The file. -/
  source : String
  /-- The number of the line. -/
  line : Nat
  /-- Why. -/
  reason : SkipReason
  /-- What is said about it. -/
  message : String
deriving DecidableEq, Repr

/-- What one file gives; a report may also stand for no file. -/
structure SourceReport where
  /-- The file. -/
  source : Option Source := none
  /-- The events. -/
  events : List Event := []
  /-- The counts. -/
  tally : Tally := {}
  /-- What was left out. -/
  skipped : List Skipped := []
deriving DecidableEq, Repr

namespace SourceReport

/-- A line of the file that is left out. -/
def skip (source : Option Source) (line : Nat) (reason : SkipReason) (message : String) : Skipped :=
  ⟨(source.map Source.location).getD "", line, reason, message⟩

/-- The report of a file with the given content. -/
def ofData (marker : String) (source : Source) (data : Bytes) : SourceReport :=
  let contents := readContents marker source data
  let normalized := Normalized.ofLines contents.lines
  let restored := restoreOrder normalized.events
  { source := some source
    events := restored.1
    tally := contents.tally + normalized.tally + { outOfOrder := restored.2 }
    skipped :=
      contents.faults.map (fun e => skip source e.line .malformedLine e.message) ++
        normalized.faults.map fun (line, e) => skip source line e.reason e.message }

/-- The place of the file among the files of the run. -/
def rank? (r : SourceReport) : Option Nat :=
  r.source.map Source.rank

/-- One report does not come after another; those without a file come last. -/
def notAfter (a b : SourceReport) : Bool :=
  match a.rank?, b.rank? with
  | some m, some n => decide (m ≤ n)
  | none, some _ => false
  | _, none => true

end SourceReport

/-- The reports of all files, given in the order in which they became ready. -/
def gather {ε : Type} (arrivals : List (Except ε SourceReport)) : Except ε (List SourceReport) := do
  let reports ← arrivals.mapM fun arrival => arrival
  return reports.mergeSort SourceReport.notAfter

end ReplicaTrace
