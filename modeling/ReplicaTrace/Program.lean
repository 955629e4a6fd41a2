import ReplicaTrace.Report.Basic
import ReplicaTrace.Settings.Load

/-!
# The program

From the command line to the report.  The report is said before it is written to the file that the
command line may name, so that it is known even if the file cannot be written.

* `program` : the program on any host.
* `ProgramError.exitCode` : what a program that fails tells by its exit code.
-/

namespace ReplicaTrace

/-- Why the program ends without an outcome. -/
inductive ProgramError where
  /-- The command line does not start a run. -/
  | usage (refusal : Refusal)
  /-- There are no settings. -/
  | settings (fault : SettingsError)
  /-- The run failed, or its report could not be written. -/
  | run (fault : RunError)
deriving DecidableEq, Repr

namespace ProgramError

/-- What is said about the fault. -/
def message : ProgramError → String
  | usage refusal => refusal.message
  | settings fault => fault.message
  | run fault => fault.message

/-- The exit code: help and the version are no faults, and a faulty command line is told apart from
all else. -/
def exitCode : ProgramError → Nat
  | usage .help | usage .version => 0
  | usage _ => 2
  | _ => 1

end ProgramError

/-- What the program leads to. -/
structure Finished where
  /-- The settings. -/
  settings : Settings
  /-- The outcome of the run. -/
  outcome : Outcome

/-- The report. -/
def Finished.report (f : Finished) : Report := .ofOutcome f.outcome

/-- What the run starts from. -/
def CommandLine.inputs (c : CommandLine) : RunInputs :=
  ⟨c.logs, c.spec, c.options.skipCheck⟩

variable {m : Type → Type} [Monad m] [Host m]

/-- Writes a report to a file. -/
def Report.writeTo (r : Report) (path : Path) : ExceptT RunError m Unit := do
  match ← Host.writeFile (m := m) path (Utf8.encode r.text.toList) with
  | .ok () => return ()
  | .error reason => throw (.notRead path reason)

/-- The program, given how a report is said. -/
def program (say : Report → m Unit) (arguments : List String) : ExceptT ProgramError m Finished := do
  let command ← ExceptT.mk (pure ((CommandLine.read arguments).mapError .usage))
  let settings ← (Settings.load command.options).adapt .settings
  let outcome ← (run settings command.inputs).adapt .run
  let finished : Finished := ⟨settings, outcome⟩
  ExceptT.lift (say finished.report)
  if let some path := command.options.report then
    (finished.report.writeTo path).adapt .run
  return finished

end ReplicaTrace
