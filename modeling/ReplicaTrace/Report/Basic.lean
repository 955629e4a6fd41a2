import ReplicaTrace.Report.Json
import ReplicaTrace.Run.Basic

/-!
# The report of a run

What a run has to say at its end, to programs as JSON and to people as lines of a log.

* `Report.ofOutcome` : the report of a run.
* `Report.text` : the report as JSON.
* `Report.log` : the report as lines, each with its weight.
-/

namespace ReplicaTrace

/-- A violation in the report. -/
structure ViolationSummary where
  /-- The place of the snapshot in the history. -/
  index : Nat
  /-- The server. -/
  server : ServerId
  /-- What went backwards. -/
  regression : Regression
  /-- Where the event is reported. -/
  location : String
deriving DecidableEq, Repr

/-- What became of the model checker. -/
inductive CheckerSummary where
  /-- It was left out. -/
  | skipped
  /-- It accepted the trace. -/
  | passed (status : Checker.Status) (elapsed : Nat)
  /-- There is no favourable verdict. -/
  | failed (message : String)
deriving DecidableEq, Repr

/-- The report of a run. -/
structure Report where
  /-- The log files. -/
  sources : List String
  /-- The servers. -/
  servers : List ServerId
  /-- The counts. -/
  tally : Tally
  /-- How many events were replayed. -/
  merged : Nat
  /-- How many snapshots the history has. -/
  snapshots : Nat
  /-- Nothing went backwards. -/
  consistent : Bool
  /-- What went backwards. -/
  violations : List ViolationSummary
  /-- What was left out. -/
  skipped : List Skipped
  /-- Where the files for the model checker are. -/
  artifacts : ArtifactPaths
  /-- What became of the model checker. -/
  checker : CheckerSummary
  /-- The exit code of the run. -/
  exitCode : Nat
deriving DecidableEq, Repr

/-- A violation for the report. -/
def Violation.summary (v : Violation) : ViolationSummary :=
  ⟨v.index, v.server, v.regression, v.event.location⟩

/-- What became of the model checker. -/
def Outcome.checkerSummary (o : Outcome) : CheckerSummary :=
  match o.verdict with
  | none => .skipped
  | some (.ok verdict) => .passed verdict.status verdict.elapsed
  | some (.error e) => .failed e.message

namespace Report

/-- The report of a run. -/
def ofOutcome (o : Outcome) : Report where
  sources := o.analysis.ledger.sources.map Source.location
  servers := o.analysis.registry.ids
  tally := o.analysis.ledger.tally
  merged := o.analysis.ledger.merged
  snapshots := o.analysis.ledger.snapshots
  consistent := o.consistent
  violations := o.analysis.ledger.violations.map Violation.summary
  skipped := o.analysis.ledger.skipped
  artifacts := o.artifacts
  checker := o.checkerSummary
  exitCode := o.exitCode

/-! ### JSON -/

open Json

/-- The counts. -/
def tallyJson (t : Tally) : Json :=
  .object [
    ("lines_scanned", nat t.scanned),
    ("lines_matched", nat t.matched),
    ("events_normalized", nat t.events),
    ("malformed_lines", nat t.malformed),
    ("missing_field", nat t.missingField),
    ("format_errors", nat t.badFormat),
    ("unknown_server", nat t.unknownServer),
    ("out_of_order", nat t.outOfOrder),
    ("non_utf8", nat t.notUtf8) ]

/-- A violation. -/
def violationJson (v : ViolationSummary) : Json :=
  .object [
    ("snapshot_index", nat v.index),
    ("server", text v.server.text),
    ("field", text v.regression.field),
    ("expected_at_least", number v.regression.last),
    ("observed", number v.regression.observed),
    ("location", text v.location) ]

/-- Something that was left out. -/
def skippedJson (s : Skipped) : Json :=
  .object [
    ("source", text s.source),
    ("line_no", nat s.line),
    ("reason", text s.reason.label),
    ("message", text s.message) ]

/-- The meaning of an exit code of the model checker. -/
def statusJson (s : Checker.Status) : Json :=
  match s.label with
  | .inl name => text name
  | .inr code => .object [("unknown", number code)]

/-- What became of the model checker. -/
def checkerJson : CheckerSummary → Json
  | .skipped => .object [("outcome", text "skipped")]
  | .passed status elapsed =>
    .object [("outcome", text "passed"), ("status", statusJson status), ("duration_ms", nat elapsed)]
  | .failed message => .object [("outcome", text "failed"), ("message", text message)]

variable (r : Report)

/-- The report as a value. -/
def json : Json :=
  .object [
    ("sources", texts r.sources),
    ("servers", texts (r.servers.map ServerId.text)),
    ("metrics", tallyJson r.tally),
    ("merged_events", nat r.merged),
    ("snapshots", nat r.snapshots),
    ("consistent", boolean r.consistent),
    ("violations", list (r.violations.map violationJson)),
    ("skipped", list (r.skipped.map skippedJson)),
    ("trace_spec", Json.text r.artifacts.spec.text),
    ("trace_config", Json.text r.artifacts.config.text),
    ("checker", checkerJson r.checker),
    ("exit_code", nat r.exitCode) ]

/-- The report as JSON. -/
def text : String := r.json.render 0

/-! ### Log lines -/

/-- The weight of a line. -/
inductive Level where
  | info
  | warn
  | error
deriving DecidableEq, Repr

/-- The name of the weight. -/
def Level.label : Level → String
  | .info => "INFO"
  | .warn => "WARN"
  | .error => "ERROR"

/-- A line of the log. -/
structure LogEntry where
  /-- Its weight. -/
  level : Level
  /-- What it says. -/
  message : String
deriving DecidableEq, Repr

/-- The line about what became of the model checker. -/
def checkerEntry : CheckerSummary → LogEntry
  | .skipped => ⟨.info, "TLC: skipped"⟩
  | .passed status elapsed => ⟨.info, s!"TLC: {status.message} in {elapsed}ms"⟩
  | .failed message => ⟨.error, s!"TLC: {message}"⟩

/-- A warning about a number of things, unless there are none. -/
def warnCount (n : Nat) (message : String) : List LogEntry :=
  if n = 0 then [] else [⟨.warn, s!"{n} {message}"⟩]

/-- The line about a violation. -/
def violationEntry (v : ViolationSummary) : LogEntry :=
  ⟨.warn, s!"Violation at snapshot {v.index}: server {v.server.text} {v.regression.message} " ++
    s!"({v.location})"⟩

/-- The report as lines of a log. -/
def log : List LogEntry :=
  [ ⟨.info, s!"Sources: {r.sources.length}, relevant lines: {r.tally.matched}, " ++
      s!"events: {r.merged} merged into {r.snapshots} snapshot(s)"⟩,
    ⟨.info, s!"Skipped: {r.tally.malformed} malformed line(s), " ++
      s!"{r.tally.missingField} missing-field event(s), " ++
      s!"{r.tally.badFormat} format-error event(s), " ++
      s!"{r.tally.unknownServer} unknown-server event(s)"⟩ ] ++
    warnCount r.tally.notUtf8 "line(s) were not valid UTF-8" ++
    warnCount r.tally.outOfOrder "line(s) were out of timestamp order within their source" ++
    r.violations.map violationEntry ++
    [ ⟨.info, s!"Trace written to {r.artifacts.spec.text} and {r.artifacts.config.text}"⟩,
      checkerEntry r.checker,
      ⟨.info, s!"Exit code: {r.exitCode}"⟩ ]

end Report

end ReplicaTrace
