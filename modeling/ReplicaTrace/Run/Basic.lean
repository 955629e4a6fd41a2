import ReplicaTrace.Checker.Basic
import ReplicaTrace.Run.Analysis

/-!
# A run

From log files to the verdict: the files are read and analysed, the history is written as a trace
module, and the model checker checks it unless it is to be left out.  Nothing is written before
everything that can fail without the disk has succeeded.

* `run` : the whole, on any host.
* `Outcome.exitCode` : `2` when something went backwards, otherwise `3` when there is no favourable
  verdict of the model checker, and `0` in all other cases.
-/

namespace ReplicaTrace

/-- Why a run ends without an outcome. -/
inductive RunError where
  /-- A file could not be read or written. -/
  | notRead (path : Path) (reason : OsError)
  /-- The logs give no history. -/
  | analysis (fault : AnalysisError)
  /-- The files for the model checker could not be made. -/
  | artifacts (fault : ArtifactError)
deriving DecidableEq, Repr

/-- What is said about the fault. -/
def RunError.message : RunError → String
  | .notRead path reason => s!"failed to read {path.text}: {reason.message}"
  | .analysis fault => fault.message
  | .artifacts fault => fault.message

/-- What a run starts from besides the settings. -/
structure RunInputs where
  /-- The log files. -/
  logs : List Path
  /-- The file with the protocol's specification. -/
  spec : Path
  /-- The model checker is to be left out. -/
  skipCheck : Bool
deriving DecidableEq, Repr

/-- What a run leads to. -/
structure Outcome where
  /-- What the logs gave. -/
  analysis : Analysis
  /-- Where the files for the model checker are. -/
  artifacts : ArtifactPaths
  /-- What the model checker said, unless it was left out. -/
  verdict : Option (Except Checker.Error Checker.Verdict)

namespace Outcome

variable (o : Outcome)

/-- Nothing went backwards. -/
def consistent : Bool := o.analysis.ledger.consistent

/-- The model checker was run and gave no favourable verdict. -/
def isRejected : Bool :=
  match o.verdict with
  | some (.error _) => true
  | _ => false

/-- What the run tells by its exit code. -/
def exitCode : Nat :=
  if !o.consistent then 2 else if o.isRejected then 3 else 0

end Outcome

/-! ### The run -/

section

variable {m : Type → Type} [Monad m] [Host m]

/-- The report of one log file. -/
def readSource (marker : String) (path : Path) (rank : Nat) :
    m (Except RunError SourceReport) := do
  match ← Host.readFile path with
  | .ok data => return .ok (.ofData marker ⟨rank, path.text⟩ data)
  | .error reason => return .error (.notRead path reason)

/-- The reports of all log files. -/
def readSources (marker : String) (logs : List Path) : m (Except RunError (List SourceReport)) := do
  return gather (← logs.zipIdx.mapM fun (path, rank) => readSource marker path rank)

/-- Runs the model checker on a trace module.  It finds the protocol's specification by the
directory of its file. -/
def runChecker (s : Settings) (spec : Path) (artifacts : ArtifactPaths) :
    m (Except Checker.Error Checker.Verdict) := do
  match ← Checker.resolveJar s.jar with
  | .error e => return .error e
  | .ok jar =>
    let library := Path.absolute (← Host.workingDir) (spec.directory?.getD ⟨"."⟩)
    let runner : Checker.Runner := {
      jar, java := s.java, workers := s.workers, limit := s.timeout.map (· * 1000),
      library := some library }
    runner.check artifacts

/-- The whole run. -/
def run (s : Settings) (inputs : RunInputs) : ExceptT RunError m Outcome := do
  unless ← Host.isFile (m := m) inputs.spec do
    throw (.notRead inputs.spec (.other "spec file not found"))
  let specModule ← ExceptT.mk (pure ((specModuleName inputs.spec).mapError .artifacts))
  let reports ← ExceptT.mk (readSources s.marker inputs.logs)
  let analysis ← ExceptT.mk (pure ((analyse s.serverIds reports).mapError .analysis))
  let artifacts ← ExceptT.mk (pure
    ((Artifacts.ofHistory analysis.replay.snapshots analysis.registry.ids specModule
      s.trace).mapError .artifacts))
  let paths ← (artifacts.writeTo s.outputDir).adapt .artifacts
  let verdict ←
    if inputs.skipCheck then pure none
    else some <$> ExceptT.lift (runChecker s inputs.spec paths)
  return ⟨analysis, paths, verdict⟩

end

end ReplicaTrace
