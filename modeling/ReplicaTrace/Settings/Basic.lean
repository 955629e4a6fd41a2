import ReplicaTrace.Path
import ReplicaTrace.Server.Id
import ReplicaTrace.Settings.Constants
import ReplicaTrace.Text.Blank
import ReplicaTrace.Text.Quoted

/-!
# Settings

What a run depends on besides the logs: the marker of relevant lines, the servers, where the trace
module goes, how the model checker is started, and which names the trace module uses for what the
protocol's own specification defines.

`Settings.fault?` is the first rule that settings break; a run is only started with settings that
break none.
-/

namespace ReplicaTrace

/-- The names of the protocol's state variables. -/
structure VariableNames where
  /-- The role of each server. -/
  role : String := "state"
  /-- The current slot of each server. -/
  slot : String := "slot"
  /-- The log of each server. -/
  log : String := "log"
  /-- The ballot of each server. -/
  ballot : String := "ballot"
deriving DecidableEq, Repr

/-- The four names. -/
def VariableNames.toList (v : VariableNames) : List String :=
  [v.role, v.slot, v.log, v.ballot]

/-- What the trace module is called and how it refers to the protocol's specification. -/
structure TraceSettings where
  /-- The name of the trace module, and of its files. -/
  moduleName : String := "Trace"
  /-- The protocol's initial predicate, which the trace has to start with. -/
  initPredicate : Option String := some "Init"
  /-- The protocol's next-state action, which every step has to be. -/
  nextAction : Option String := some "Next"
  /-- The names of the protocol's variables. -/
  names : VariableNames := {}
  /-- The constant for the number of servers; empty for none. -/
  serverCount : String := "NServers"
  /-- The constant for the set of server indices; empty for none. -/
  serverSet : String := "Servers"
  /-- Further constants, with the text of their values. -/
  constants : Constants := .empty
deriving DecidableEq

/-- The settings of a run. -/
structure Settings where
  /-- What marks a relevant line. -/
  marker : String := "[TEST]"
  /-- The servers in order; none if they are to be discovered. -/
  servers : List String := []
  /-- The directory for the trace module and its configuration. -/
  outputDir : Path := ⟨"."⟩
  /-- The archive that holds the model checker. -/
  jar : Option Path := none
  /-- The program that runs the archive. -/
  java : Path := ⟨"java"⟩
  /-- How many workers the model checker uses. -/
  workers : Nat := 1
  /-- After how many seconds the model checker is given up. -/
  timeout : Option Nat := none
  /-- The trace module. -/
  trace : TraceSettings := {}
deriving DecidableEq

/-- The servers of the settings. -/
def Settings.serverIds (s : Settings) : List ServerId :=
  s.servers.map ServerId.mk

/-! ### Rules -/

open Text

/-- A letter or an underscore of ASCII. -/
def isIdentifierStart (c : Char) : Bool :=
  c.isAlpha || c == '_'

/-- A letter, a digit or an underscore of ASCII. -/
def isIdentifierRest (c : Char) : Bool :=
  c.isAlphanum || c == '_'

/-- The text is an identifier: a letter or an underscore, then letters, digits and underscores. -/
def isIdentifier (s : String) : Bool :=
  match s.toList with
  | [] => false
  | c :: cs => isIdentifierStart c && cs.all isIdentifierRest

/-- A rule that settings break. -/
inductive SettingsFault where
  /-- The marker is blank. -/
  | blankMarker
  /-- There are no workers. -/
  | noWorkers
  /-- The model checker would have no time. -/
  | noTime
  /-- A server id is blank. -/
  | blankServer
  /-- The name of the trace module is no identifier. -/
  | badModuleName (name : String)
  /-- The name of a variable is no identifier. -/
  | badVariable (name : String)
  /-- Two variables have the same name. -/
  | sameVariable
  /-- The constant for the servers' number or set is no identifier. -/
  | badServerConstant (name : String)
  /-- The name of a further constant is no identifier. -/
  | badConstant (name : String)
deriving DecidableEq, Repr

/-- What is said about the rule. -/
def SettingsFault.message : SettingsFault → String
  | .blankMarker => "marker must not be empty"
  | .noWorkers => "workers must be > 0"
  | .noTime => "checker_timeout_secs must be > 0 when set"
  | .blankServer => "servers must not contain empty ids"
  | .badModuleName name => s!"trace.module_name {quoted name} is not a valid identifier"
  | .badVariable name => s!"trace.variables entry {quoted name} is not a valid identifier"
  | .sameVariable => "trace.variables must name four distinct variables"
  | .badServerConstant name => s!"trace server constant {quoted name} is not a valid identifier"
  | .badConstant name => s!"trace.constants key {quoted name} is not a valid identifier"

/-- The first name that is no identifier. -/
def firstBadName (names : List String) : Option String :=
  names.find? (!isIdentifier ·)

/-- A text without anything but blanks. -/
def isBlankText (s : String) : Bool :=
  s.toList.all isBlank

/-- The first rule about the trace module that is broken. -/
def TraceSettings.fault? (t : TraceSettings) : Option SettingsFault :=
  if !isIdentifier t.moduleName then some (.badModuleName t.moduleName)
  else if let some name := firstBadName t.names.toList then some (.badVariable name)
  else if ¬ t.names.toList.Nodup then some .sameVariable
  else if let some name := firstBadName ([t.serverCount, t.serverSet].filter (· != "")) then
    some (.badServerConstant name)
  else (firstBadName t.constants.names).map .badConstant

/-- The first rule that is broken. -/
def Settings.fault? (s : Settings) : Option SettingsFault :=
  if isBlankText s.marker then some .blankMarker
  else if s.workers = 0 then some .noWorkers
  else if s.timeout = some 0 then some .noTime
  else if s.servers.any isBlankText then some .blankServer
  else s.trace.fault?

end ReplicaTrace
