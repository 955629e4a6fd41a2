import ReplicaTrace.Path

/-!
# The command line

The arguments name the log files, then the protocol's specification, and between them options.
They are read from left to right, and the first fault decides.  A single dash is a path, and after
two dashes all arguments are paths.

* `Argument.ofText` : what kind of argument a text is.
* `CommandLine.State.step` : what one argument changes.  Options and paths take effect when they are *settled*,
  that is, when the next option or the first path after an option shows that they are complete.
* `CommandLine.read` : the command line as a whole.
-/

namespace ReplicaTrace

/-- What the options of a command line set. -/
structure Options where
  /-- The file with the settings. -/
  config : Option Path := none
  /-- The archive with the model checker. -/
  jar : Option Path := none
  /-- The servers; none if the option is not given. -/
  servers : List String := []
  /-- The directory for the trace module. -/
  outputDir : Option Path := none
  /-- What marks a relevant line. -/
  marker : Option String := none
  /-- The model checker is to be left out. -/
  skipCheck : Bool := false
  /-- The file for the report. -/
  report : Option Path := none
deriving DecidableEq, Repr

/-- A command line. -/
structure CommandLine where
  /-- The log files. -/
  logs : List Path
  /-- The file with the protocol's specification. -/
  spec : Path
  /-- The options. -/
  options : Options
deriving DecidableEq, Repr

/-- An option with a value. -/
inductive ValueOption where
  | config
  | jar
  | servers
  | outputDir
  | marker
  | report
deriving DecidableEq, Repr

/-- An option. -/
inductive OptionName where
  | valued (o : ValueOption)
  | skipCheck
  | help
  | version
deriving DecidableEq, Repr

/-- The name of an option with a value. -/
def ValueOption.label : ValueOption → String
  | config => "--config"
  | jar => "--tla2tools-jar"
  | servers => "--servers"
  | outputDir => "--output-dir"
  | marker => "--marker"
  | report => "--report"

/-- Why a command line does not start a run. -/
inductive Refusal where
  /-- It asks for help. -/
  | help
  /-- It asks for the version. -/
  | version
  /-- There are no paths. -/
  | missingPaths
  /-- There is only one path, or only one between two options. -/
  | tooFewPaths
  /-- A path is empty. -/
  | emptyPath
  /-- There is no such option. -/
  | unknownOption (text : String)
  /-- An option lacks its value. -/
  | missingValue (option : String)
  /-- An option without a value has one. -/
  | needlessValue (option : String)
  /-- An option that may be given once is given twice. -/
  | repeated (option : String)
deriving DecidableEq, Repr

/-- How the program is called. -/
def usage : String :=
  "Usage: trace-checker [OPTIONS] LOGFILES... SPECFILE"

/-- What is said about the refusal. -/
def Refusal.message : Refusal → String
  | help => "Merge replica logs into one trace and check it with TLC\n\n" ++ usage
  | version => "trace-checker"
  | missingPaths => "log files and a specification file are required\n\n" ++ usage
  | tooFewPaths => "a log file and a specification file are required\n\n" ++ usage
  | emptyPath => "a path must not be empty"
  | unknownOption text => s!"unexpected argument {text}\n\n{usage}"
  | missingValue option => s!"a value is required for {option}"
  | needlessValue option => s!"{option} takes no value"
  | repeated option => s!"{option} cannot be used multiple times"

/-! ### Arguments -/

/-- The option with a long name. -/
def OptionName.ofLong? : String → Option OptionName
  | "config" => some (.valued .config)
  | "tla2tools-jar" => some (.valued .jar)
  | "servers" => some (.valued .servers)
  | "output-dir" => some (.valued .outputDir)
  | "marker" => some (.valued .marker)
  | "skip-check" => some .skipCheck
  | "report" => some (.valued .report)
  | "help" => some .help
  | "version" => some .version
  | _ => none

/-- The option with a name of one letter. -/
def OptionName.ofShort? : Char → Option OptionName
  | 'c' => some (.valued .config)
  | 'o' => some (.valued .outputDir)
  | 'h' => some .help
  | 'V' => some .version
  | _ => none

/-- The kinds of arguments. -/
inductive Argument where
  /-- A long name after two dashes, perhaps with a value after an equals sign. -/
  | long (name : String) (value : Option String)
  /-- A letter after one dash, with what follows it. -/
  | short (letter : Char) (rest : List Char)
  /-- Two dashes: only paths follow. -/
  | onlyPaths
  /-- A path or the value of an option. -/
  | plain (text : String)
deriving DecidableEq, Repr

/-- What kind of argument a text is. -/
def Argument.ofText (text : String) : Argument :=
  match text.toList with
  | ['-', '-'] => .onlyPaths
  | '-' :: '-' :: rest =>
    match rest.span (· != '=') with
    | (name, _ :: value) => .long (String.ofList name) (some (String.ofList value))
    | (name, []) => .long (String.ofList name) none
  | '-' :: letter :: rest => .short letter rest
  | _ => .plain text

/-- The value that follows a letter in the same argument, perhaps after an equals sign. -/
def attachedValue : List Char → Option String
  | [] => none
  | '=' :: value => some (String.ofList value)
  | value => some (String.ofList value)

/-! ### Options -/

/-- Sets an option that may be given once. -/
def setOnce {α : Type} (o : ValueOption) (old : Option α) (value : Except Refusal α) :
    Except Refusal (Option α) :=
  if old.isSome then .error (.repeated o.label) else value.map some

/-- A path must not be empty. -/
def pathOf (text : String) : Except Refusal Path :=
  if text = "" then .error .emptyPath else .ok ⟨text⟩

/-- The pieces between commas. -/
def splitCommas (text : String) : List String :=
  (text.toList.splitOn ',').map String.ofList

namespace Options

/-- Sets an option with a value. -/
def set (s : Options) (o : ValueOption) (text : String) : Except Refusal Options := do
  match o with
  | .config => return { s with config := ← setOnce o s.config (pathOf text) }
  | .jar => return { s with jar := ← setOnce o s.jar (pathOf text) }
  | .servers => return { s with servers := s.servers ++ splitCommas text }
  | .outputDir => return { s with outputDir := ← setOnce o s.outputDir (pathOf text) }
  | .marker => return { s with marker := ← setOnce o s.marker (.ok text) }
  | .report => return { s with report := ← setOnce o s.report (pathOf text) }

/-- Sets the option that the model checker is to be left out. -/
def setSkipCheck (s : Options) : Except Refusal Options :=
  if s.skipCheck then .error (.repeated "--skip-check") else .ok { s with skipCheck := true }

end Options

/-! ### Reading -/

namespace CommandLine

/-- What is not settled yet. -/
inductive Pending where
  | nothing
  /-- An option, with its value once that is known. -/
  | option (o : ValueOption) (value : Option String)
  /-- Paths, one after the other. -/
  | paths (texts : List String)
deriving DecidableEq, Repr

/-- What the arguments so far say. -/
structure State where
  /-- The settled paths. -/
  paths : List Path := []
  /-- The settled options. -/
  options : Options := {}
  /-- What is not settled. -/
  pending : Pending := .nothing
deriving DecidableEq, Repr

namespace State

variable (s : State)

/-- Settles what is pending: an option has to have its value, and paths stand together in twos or
more. -/
def settle : Except Refusal State := do
  match s.pending with
  | .nothing => return s
  | .option o none => throw (.missingValue o.label)
  | .option o (some text) => return ⟨s.paths, ← s.options.set o text, .nothing⟩
  | .paths texts =>
    if texts.length < 2 then throw .tooFewPaths
    return ⟨s.paths ++ (← texts.mapM pathOf), s.options, .nothing⟩

/-- Goes on with a path. -/
def addPath (text : String) : Except Refusal State := do
  match s.pending with
  | .paths texts => return { s with pending := .paths (texts ++ [text]) }
  | _ => return { (← s.settle) with pending := .paths [text] }

/-- Goes on with a path, or with the value of an option that waits for one. -/
def addPlain (text : String) : Except Refusal State :=
  match s.pending with
  | .option o none => .ok { s with pending := .option o (some text) }
  | _ => s.addPath text

/-- Goes on with an option. -/
def addOption (label : String) (name : Option OptionName) (value : Option String) :
    Except Refusal State := do
  match name, value with
  | none, _ => throw (.unknownOption label)
  | some (.valued o), none => return { (← s.settle) with pending := .option o none }
  | some (.valued o), some text =>
    let s ← s.settle
    return { s with options := ← s.options.set o text }
  | some _, some _ => throw (.needlessValue label)
  | some .skipCheck, none =>
    let s ← s.settle
    return { s with options := ← s.options.setSkipCheck }
  | some .help, none =>
    let _ ← s.settle
    throw .help
  | some .version, none =>
    let _ ← s.settle
    throw .version

/-- The value in an argument of one letter.  Only an option that has a value takes it. -/
def valueAfterLetter (name : Option OptionName) (rest : List Char) : Option String :=
  match name with
  | some (.valued _) => attachedValue rest
  | _ => none

/-- Goes on with an argument. -/
def step : Argument → Except Refusal State
  | .long name value => s.addOption ("--" ++ name) (OptionName.ofLong? name) value
  | .short letter rest =>
    let name := OptionName.ofShort? letter
    s.addOption (String.ofList ['-', letter]) name (valueAfterLetter name rest)
  | .onlyPaths => .ok s
  | .plain text => s.addPlain text

/-- Goes on with all arguments. -/
def steps (s : State) : List String → Except Refusal State
  | [] => .ok s
  | text :: texts =>
    match Argument.ofText text with
    | .onlyPaths => texts.foldlM addPath s
    | argument => do steps (← s.step argument) texts

end State

/-- Reads a command line. -/
def read (arguments : List String) : Except Refusal CommandLine := do
  let s ← (← State.steps {} arguments).settle
  match s.paths.getLast? with
  | some spec => return ⟨s.paths.dropLast, spec, s.options⟩
  | none => throw .missingPaths

end CommandLine

end ReplicaTrace
