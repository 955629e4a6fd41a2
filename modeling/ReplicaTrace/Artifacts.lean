import ReplicaTrace.Host.Basic
import ReplicaTrace.Tla.ModelConfig

/-!
# The files for the model checker

A trace is handed to the model checker as two files in one directory, the trace module and its
configuration, both called after the module.  The module must not be called like the protocol's
specification, which it extends and which the checker finds by its name.
-/

namespace ReplicaTrace

open Tla

/-- Why the files for the model checker could not be made. -/
inductive ArtifactError where
  /-- A file or directory could not be written. -/
  | notWritten (path : Path) (reason : OsError)
  /-- The path of the specification gives no module name. -/
  | badSpecPath (path : Path)
  /-- The trace module is called like the specification. -/
  | moduleClash (name : String)
deriving DecidableEq, Repr

/-- What is said about the fault. -/
def ArtifactError.message : ArtifactError → String
  | .notWritten path reason => s!"failed to write {path.text}: {reason.message}"
  | .badSpecPath path => s!"cannot derive a module name from spec path {path.text}"
  | .moduleClash name =>
    s!"trace module name {Text.quoted name} clashes with the protocol spec module"

/-- The name of the module in a specification file: its name without the ending. -/
def specModuleName (spec : Path) : Except ArtifactError String :=
  match spec.fileStem? with
  | some name => if name = "" then .error (.badSpecPath spec) else .ok name
  | none => .error (.badSpecPath spec)

/-- The texts of the two files. -/
structure Artifacts where
  /-- The name of both files, without their endings. -/
  moduleName : String
  /-- The trace module. -/
  spec : String
  /-- The model configuration. -/
  config : String
deriving DecidableEq, Repr

/-- Where the two files are. -/
structure ArtifactPaths where
  /-- The trace module. -/
  spec : Path
  /-- The model configuration. -/
  config : Path
deriving DecidableEq, Repr

namespace Artifacts

/-- The files for a history. -/
def ofHistory (history : List Snapshot) (servers : List ServerId) (specModule : String)
    (settings : TraceSettings) : Except ArtifactError Artifacts :=
  if specModule = settings.moduleName then .error (.moduleClash settings.moduleName)
  else .ok {
    moduleName := settings.moduleName
    spec := (TraceModule.ofHistory history servers specModule settings).text
    config := (ModelConfig.forTrace servers.length settings).text }

/-- Where the files go in a directory. -/
def paths (a : Artifacts) (dir : Path) : ArtifactPaths where
  spec := dir.join s!"{a.moduleName}.tla"
  config := dir.join s!"{a.moduleName}.cfg"

variable {m : Type → Type} [Monad m] [Host m]

/-- Does something with a path and names the path if that fails. -/
def attempt (path : Path) (act : m (Except OsError Unit)) : ExceptT ArtifactError m Unit := do
  match ← act with
  | .ok () => return ()
  | .error reason => throw (.notWritten path reason)

/-- Writes the files into a directory, which is created if it is missing. -/
def writeTo (a : Artifacts) (dir : Path) : ExceptT ArtifactError m ArtifactPaths := do
  let ps := a.paths dir
  attempt dir (Host.makeDirs dir)
  attempt ps.spec (Host.writeFile ps.spec (Utf8.encode a.spec.toList))
  attempt ps.config (Host.writeFile ps.config (Utf8.encode a.config.toList))
  return ps

end Artifacts

end ReplicaTrace
