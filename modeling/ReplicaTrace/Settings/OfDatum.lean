import ReplicaTrace.Datum
import ReplicaTrace.Settings.Basic
import ReplicaTrace.Text.Decimal

/-!
# Settings from data

Reads settings from a document.  Every part that the document leaves out has its default, names
that mean nothing are passed over, and a value of the wrong kind or out of bounds spoils all.  The
format of the document decides whether a list that stands for a record may be too long.

* `VariableNames.ofDatum?`, `TraceSettings.ofDatum?` : the records within the settings.
* `Settings.ofDatum?` : all settings.
-/

namespace ReplicaTrace

open Datum Text

/-- The parts of the variable names, in order. -/
def VariableNames.partNames : List String := ["role", "slot", "log", "ballot"]

/-- Reads the names of the variables. -/
def VariableNames.ofDatum? (surplus : Surplus) (d : Datum) : Option VariableNames := do
  let fields ← d.fields? surplus partNames
  let default : VariableNames := {}
  return {
    role := ← part fields "role" text? default.role
    slot := ← part fields "slot" text? default.slot
    log := ← part fields "log" text? default.log
    ballot := ← part fields "ballot" text? default.ballot }

/-- Reads the values of constants. -/
def Constants.ofDatum? (d : Datum) : Option Constants :=
  (d.table? text?).map Constants.ofList

/-- The parts of the settings for the trace module, in order. -/
def TraceSettings.partNames : List String :=
  [ "module_name", "init_predicate", "next_action", "variables", "server_count_constant",
    "server_set_constant", "constants" ]

/-- Reads the settings for the trace module. -/
def TraceSettings.ofDatum? (surplus : Surplus) (d : Datum) : Option TraceSettings := do
  let fields ← d.fields? surplus partNames
  let default : TraceSettings := {}
  return {
    moduleName := ← part fields "module_name" text? default.moduleName
    initPredicate := ← part fields "init_predicate" (optional? text?) default.initPredicate
    nextAction := ← part fields "next_action" (optional? text?) default.nextAction
    names := ← part fields "variables" (VariableNames.ofDatum? surplus) default.names
    serverCount := ← part fields "server_count_constant" text? default.serverCount
    serverSet := ← part fields "server_set_constant" text? default.serverSet
    constants := ← part fields "constants" Constants.ofDatum? default.constants }

/-- A path. -/
def Path.ofDatum? (d : Datum) : Option Path :=
  d.text?.map Path.mk

/-- The parts of the settings, in order. -/
def Settings.partNames : List String :=
  [ "marker", "servers", "output_dir", "tla2tools_jar", "java", "workers", "checker_timeout_secs",
    "trace" ]

/-- Reads settings. -/
def Settings.ofDatum? (surplus : Surplus) (d : Datum) : Option Settings := do
  let fields ← d.fields? surplus partNames
  let default : Settings := {}
  return {
    marker := ← part fields "marker" text? default.marker
    servers := ← part fields "servers" (list? text?) default.servers
    outputDir := ← part fields "output_dir" Path.ofDatum? default.outputDir
    jar := ← part fields "tla2tools_jar" (optional? Path.ofDatum?) default.jar
    java := ← part fields "java" Path.ofDatum? default.java
    workers := ← part fields "workers" (nat? max32) default.workers
    timeout := ← part fields "checker_timeout_secs" (optional? (nat? max64)) default.timeout
    trace := ← part fields "trace" (TraceSettings.ofDatum? surplus) default.trace }

end ReplicaTrace
