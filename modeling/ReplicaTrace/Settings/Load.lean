import ReplicaTrace.CommandLine
import ReplicaTrace.Host.Basic
import ReplicaTrace.Settings.OfDatum
import ReplicaTrace.Toml.Document

/-!
# Layers of settings

The settings of a run come from a file, over which the environment and then the command line take
precedence, each for what it sets.  What none of them sets has its default.

* `Environment.applyTo` and `Options.applyTo` : one layer over the settings below it.
* `Settings.load` : all layers, on any host; the settings have to break no rule.
-/

namespace ReplicaTrace

/-- Why there are no settings. -/
inductive SettingsError where
  /-- The file could not be read. -/
  | notRead (path : Path) (reason : OsError)
  /-- The content of the file gives no settings. -/
  | notUnderstood (path : Path)
  /-- The settings break a rule. -/
  | invalid (fault : SettingsFault)
deriving DecidableEq, Repr

/-- What is said about the fault. -/
def SettingsError.message : SettingsError → String
  | .notRead path reason => s!"failed to read config {path.text}: {reason.message}"
  | .notUnderstood path => s!"failed to parse config {path.text}"
  | .invalid fault => s!"invalid configuration: {fault.message}"

/-! ### Layers -/

/-- The settings that the text of a file gives. -/
def Settings.ofToml? (text : String) : Option Settings := do
  Settings.ofDatum? .ignored (← Toml.read text)

/-- What the environment sets. -/
structure Environment where
  /-- What marks a relevant line. -/
  marker : Option String := none
  /-- The directory for the trace module. -/
  outputDir : Option String := none
  /-- The archive with the model checker. -/
  jar : Option String := none
  /-- The program that runs the archive. -/
  java : Option String := none
  /-- How many workers the model checker uses. -/
  workers : Option String := none
deriving DecidableEq, Repr

/-- A number of workers, perhaps with blanks around it. -/
def readWorkers (text : String) : Option Nat :=
  (Text.readNat Text.max32 (Text.trim text.toList)).toOption

/-- The environment over settings.  A number of workers that is none sets nothing. -/
def Environment.applyTo (e : Environment) (s : Settings) : Settings :=
  { s with
    marker := e.marker.getD s.marker
    outputDir := (e.outputDir.map Path.mk).getD s.outputDir
    jar := (e.jar.map Path.mk).or s.jar
    java := (e.java.map Path.mk).getD s.java
    workers := (e.workers.bind readWorkers).getD s.workers }

/-- A text without the blanks at its ends. -/
def trimText (text : String) : String :=
  String.ofList (Text.trim text.toList)

/-- The command line over settings. -/
def Options.applyTo (o : Options) (s : Settings) : Settings :=
  { s with
    jar := o.jar.or s.jar
    servers := if o.servers.isEmpty then s.servers else o.servers.map trimText
    outputDir := o.outputDir.getD s.outputDir
    marker := o.marker.getD s.marker }

/-! ### Loading -/

/-- The environment variable that names the file. -/
def configVariable : String := "TRACECHECK_CONFIG"

/-- The file that is used if none is named, as long as it is there. -/
def defaultConfig : Path := ⟨"tracecheck.toml"⟩

section

variable {m : Type → Type} [Monad m] [Host m]

/-- The environment. -/
def Environment.ask : m Environment := do
  return {
    marker := ← Host.environment? "TRACECHECK_MARKER"
    outputDir := ← Host.environment? "TRACECHECK_OUTPUT_DIR"
    jar := ← Host.environment? "TLA2TOOLS_JAR"
    java := ← Host.environment? "TRACECHECK_JAVA"
    workers := ← Host.environment? "TRACECHECK_WORKERS" }

/-- The file with the settings: the given one, else the one that the environment names, else the
default one if it is there. -/
def configFile (given : Option Path) : m (Option Path) := do
  match given.or ((← Host.environment? configVariable).map Path.mk) with
  | some path => return some path
  | none => return if ← Host.isPresent defaultConfig then some defaultConfig else none

/-- The settings in a file. -/
def Settings.ofFile (path : Path) : m (Except SettingsError Settings) := do
  match ← Host.readText path with
  | .error reason => return .error (.notRead path reason)
  | .ok text =>
    match Settings.ofToml? text with
    | some s => return .ok s
    | none => return .error (.notUnderstood path)

/-- The settings of a run. -/
def Settings.load (o : Options) : ExceptT SettingsError m Settings := do
  let base ← match ← configFile (m := m) o.config with
    | some path => ExceptT.mk (Settings.ofFile path)
    | none => pure {}
  let s := o.applyTo ((← ExceptT.lift Environment.ask).applyTo base)
  match s.fault? with
  | some fault => throw (.invalid fault)
  | none => return s

end

end ReplicaTrace
