import ReplicaTrace.Settings.Basic
import ReplicaTrace.Tla.TraceModule

/-!
# The model configuration

The file that tells the model checker what to check about the trace module: the values of the
constants, the specification, the properties, and that the trace may end.
-/

namespace ReplicaTrace

namespace Tla

/-- A model configuration. -/
structure ModelConfig where
  /-- The module that is checked. -/
  moduleName : String
  /-- The constants, with the text of their values. -/
  constants : Constants
  /-- The name of the specification. -/
  specification : String
  /-- The names of the properties. -/
  properties : List String
  /-- A behaviour that cannot go on is a fault. -/
  checkDeadlock : Bool
deriving DecidableEq

namespace ModelConfig

/-- The constants for the given number of servers.  A further constant of the settings wins over a
constant for the servers of the same name. -/
def constantsFor (servers : Nat) (t : TraceSettings) : Constants :=
  let counted :=
    if t.serverCount = "" then .empty
    else Constants.empty.insert t.serverCount (Value.nat servers).render
  let listed :=
    if t.serverSet = "" then counted
    else counted.insert t.serverSet (Value.indexSet servers).render
  t.constants.entries.foldl (fun c e => c.insert e.1 e.2) listed

/-- The configuration for a trace module.  The trace stops after its last step, so that a behaviour
that cannot go on is no fault. -/
def forTrace (servers : Nat) (t : TraceSettings) : ModelConfig where
  moduleName := t.moduleName
  constants := constantsFor servers t
  specification := traceSpec
  properties := [traceMatched]
  checkDeadlock := false

variable (c : ModelConfig)

/-- The lines of the configuration. -/
def lines : List String :=
  [ "\\* TLC Configuration File", s!"\\* Generated for: {c.moduleName}", "" ] ++
    (if c.constants.entries = [] then []
      else "CONSTANTS" :: c.constants.entries.map (fun e => s!"  {e.1} = {e.2}") ++ [""]) ++
    [ s!"SPECIFICATION {c.specification}", "" ] ++
    (if c.properties = [] then []
      else c.properties.map (fun p => s!"PROPERTY {p}") ++ [""]) ++
    (if c.checkDeadlock then [] else ["CHECK_DEADLOCK FALSE"])

/-- The text of the configuration: every line ends with a line feed. -/
def text : String :=
  String.join (c.lines.map (· ++ "\n"))

end ModelConfig

end Tla

end ReplicaTrace
