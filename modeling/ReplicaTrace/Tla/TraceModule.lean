import ReplicaTrace.History.Snapshot
import ReplicaTrace.Settings.Basic
import ReplicaTrace.Tla.Value

/-!
# The trace module

The history becomes a TLA+ module that extends the protocol's specification.  For the `k`-th
snapshot it defines an action `Stepk`, which is possible only when `k - 1` steps were taken, has to
be a step of the protocol, and gives the acting server the role, slot, log and ballot that it has in
the snapshot.  The model checker accepts the trace when all steps can be taken.

* `TraceModule.ofHistory` : the module as data: what it starts with and its steps.
* `TraceModule.lines` : the lines of its text.
-/

namespace ReplicaTrace

namespace Tla

/-- The variable that counts the steps taken. -/
def traceIndex : String := "traceIndex"

/-- The name of the behaviours that the module describes. -/
def traceSpec : String := "TraceSpec"

/-- The name of the property that all steps are taken. -/
def traceMatched : String := "TraceMatched"

/-- Values for the four variables of the protocol. -/
structure Values where
  /-- The role. -/
  role : Value
  /-- The current slot. -/
  slot : Value
  /-- The log. -/
  log : Value
  /-- The ballot. -/
  ballot : Value
deriving DecidableEq

/-- The values paired with the names of their variables. -/
def Values.named (vs : Values) (names : VariableNames) : List (String × Value) :=
  [(names.role, vs.role), (names.slot, vs.slot), (names.log, vs.log), (names.ballot, vs.ballot)]

/-- What one server has in a snapshot. -/
def Values.ofServer (s : Snapshot) (server : Nat) : Values where
  role := .ofRole (s.roleOf server)
  slot := .nat (s.slotOf server)
  log := .ofLog (s.logOf server)
  ballot := .int (s.progressOf server).ballot

/-- What all servers have in a snapshot, as functions of the index. -/
def Values.ofSnapshot (s : Snapshot) : Values where
  role := .function (s.roles.map .ofRole)
  slot := .function (s.slots.map .nat)
  log := .function (s.logs.map .ofLog)
  ballot := .function (s.progress.map fun p => .int p.ballot)

/-- One step of the trace. -/
structure Step where
  /-- The number of the step, from `1`. -/
  number : Nat
  /-- The label of the action. -/
  action : String
  /-- Where the event is reported. -/
  location : Option String
  /-- The index of the acting server. -/
  server : Nat
  /-- What the server has after the step. -/
  values : Values
deriving DecidableEq

/-- A trace module. -/
structure TraceModule where
  /-- The name of the module and of what it refers to. -/
  settings : TraceSettings
  /-- The module of the protocol's specification. -/
  specModule : String
  /-- The servers; the place of an id is the index of its server. -/
  servers : List ServerId
  /-- The number of steps to be taken. -/
  length : Nat
  /-- What the servers have at the start. -/
  start : Values
  /-- The steps. -/
  steps : List Step
deriving DecidableEq

namespace TraceModule

/-- The step that leads to a snapshot; a snapshot without an acting server has none. -/
def stepOf (index : Nat) (s : Snapshot) : Option Step :=
  s.actor.map fun server =>
    ⟨index + 1, s.action, s.location, server, .ofServer s server⟩

/-- The trace module of a history. -/
def ofHistory (history : List Snapshot) (servers : List ServerId) (specModule : String)
    (settings : TraceSettings) : TraceModule where
  settings := settings
  specModule := specModule
  servers := servers
  length := history.length
  start := .ofSnapshot (.initial servers.length)
  steps := (history.mapIdx stepOf).filterMap id

/-! ### Text -/

/-- The text between dashes, to the given width; an odd dash is on the right. -/
def centered (width : Nat) (text : String) : String :=
  let dashes := width - text.length
  String.ofList (List.replicate (dashes / 2) '-') ++ text ++
    String.ofList (List.replicate (dashes - dashes / 2) '-')

/-- The text on one line: line breaks become spaces. -/
def onOneLine (text : String) : String :=
  String.ofList (text.toList.map fun c => if c = '\n' ∨ c = '\r' then ' ' else c)

/-- A conjunct of an action. -/
def conjunct (text : String) : String := "    /\\ " ++ text

/-- The width of the first and the last line. -/
def width : Nat := 72

variable (m : TraceModule)

/-- What the module is and what it extends. -/
def header : List String :=
  [ centered width s!" MODULE {m.settings.moduleName} ",
    s!"\\* Observed trace: {m.length} step(s) over {m.servers.length} server(s), " ++
      "generated by trace-checker.",
    s!"EXTENDS {m.specModule}, Naturals, Sequences, TLC",
    "",
    s!"VARIABLE {traceIndex}",
    "",
    "traceVars == <<" ++ ", ".intercalate (m.settings.names.toList ++ [traceIndex]) ++ ">>",
    s!"TraceLength == {m.length}",
    "" ]

/-- Which server has which index. -/
def serverLines : List String :=
  m.servers.mapIdx (fun i id => s!"\\* server {i} = {(Value.str id.text).render}") ++ [""]

/-- How the trace starts. -/
def initLines : List String :=
  "TraceInit ==" :: m.settings.initPredicate.toList.map conjunct ++
    (m.start.named m.settings.names).map (fun (name, v) => conjunct s!"{name} = {v.render}") ++
    [conjunct s!"{traceIndex} = 0", ""]

/-- The value that a step gives to a variable at the acting server. -/
def assignment (server : Nat) (name : String) (v : Value) : String :=
  s!"{name}' = [{name} EXCEPT ![{server}] = {v.render}]"

/-- What a step came from, as a comment. -/
def stepNote (step : Step) : String :=
  s!"\\* {step.number}: {onOneLine step.action} by server {step.server}" ++
    (step.location.map fun l => s!" ({l})").getD ""

/-- One step. -/
def stepLines (step : Step) : List String :=
  [stepNote step, s!"Step{step.number} ==", conjunct s!"{traceIndex} = {step.number - 1}"] ++
    m.settings.nextAction.toList.map conjunct ++
    (step.values.named m.settings.names).map
      (fun (name, v) => conjunct (assignment step.server name v)) ++
    [conjunct s!"{traceIndex}' = {step.number}", ""]

/-- All steps together. -/
def nextLines : List String :=
  "TraceNext ==" ::
    (if m.length = 0 then ["    FALSE"]
      else (List.range m.length).map fun k => s!"    \\/ Step{k + 1}") ++ [""]

/-- What the model checker is to check. -/
def footer : List String :=
  [ s!"{traceSpec} == TraceInit /\\ [][TraceNext]_traceVars /\\ WF_traceVars(TraceNext)",
    "",
    s!"{traceMatched} == <>({traceIndex} = TraceLength)",
    String.ofList (List.replicate width '=') ]

/-- The lines of the module. -/
def lines : List String :=
  m.header ++ m.serverLines ++ m.initLines ++ m.steps.flatMap m.stepLines ++ m.nextLines ++ footer

/-- The text of the module: every line ends with a line feed. -/
def text : String :=
  String.join (m.lines.map (· ++ "\n"))

end TraceModule

end Tla

end ReplicaTrace
