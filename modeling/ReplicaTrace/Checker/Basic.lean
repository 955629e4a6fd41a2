import ReplicaTrace.Artifacts
import ReplicaTrace.Checker.Status
import ReplicaTrace.Log.Contents

/-!
# Running the model checker

The model checker is a program of another system, kept in an archive and run by `java` in the
directory of the trace module.  Its exit code decides; what it writes is kept for the messages.

* `Runner.command` : the program, its arguments and its directory.
* `textLines` : the lines of what was written to one stream, up to the first that is no text.
* `judge` : what the end of the program says about the trace.
* `Runner.check` : all of it, on any host.
-/

namespace ReplicaTrace

namespace Checker

/-- Why there is no favourable verdict. -/
inductive Error where
  /-- The archive is missing. -/
  | noJar (path : Path)
  /-- The program could not be started. -/
  | notStarted (java : Path) (reason : OsError)
  /-- The program did not end within the given milliseconds. -/
  | timeout (limit : Nat)
  /-- The program ended with another exit code than `0`. -/
  | rejected (status : Status) (code : Int) (output : String)
deriving DecidableEq, Repr

/-- A fraction of a second without zeros at its end, given in milliseconds. -/
def fractionText (millis : Nat) : String :=
  let digits := (Calendar.padded 3 millis).reverse.dropWhile (· == '0')
  if digits.isEmpty then "" else "." ++ String.ofList digits.reverse

/-- A time in the largest unit that it fills. -/
def limitText (millis : Nat) : String :=
  if millis = 0 then "0ns"
  else if millis < 1000 then s!"{millis}ms"
  else s!"{millis / 1000}{fractionText (millis % 1000)}s"

/-- What is said about the fault. -/
def Error.message : Error → String
  | .noJar path => s!"tla2tools.jar not found at {path.text}"
  | .notStarted java reason => s!"failed to start {java.text}: {reason.message}"
  | .timeout limit => s!"TLC did not finish within {limitText limit}"
  | .rejected status code output =>
    s!"TLC rejected the trace ({status.message}, exit code {code}):\n{output}"

/-- A favourable verdict. -/
structure Verdict where
  /-- The meaning of the exit code. -/
  status : Status
  /-- The exit code. -/
  code : Int
  /-- What the program wrote. -/
  output : List String
  /-- How many milliseconds the program took. -/
  elapsed : Nat
deriving DecidableEq, Repr

/-! ### Output -/

/-- The lines of a stream: each ends with a line feed, after which a carriage return is dropped too,
and what follows the last line feed is a line if it is not empty. -/
def byteLines (stream : Bytes) : List Bytes :=
  let parts := stream.splitOn lineFeed
  parts.dropLast.map (dropFinal carriageReturn) ++ (parts.getLast?.filter (· != [])).toList

/-- The lines of a stream as text, up to the first that is none. -/
def textLines (stream : Bytes) : List String :=
  ((byteLines stream).map Utf8.decode?).takeWhile Option.isSome |>.filterMap
    (·.map String.ofList)

/-- The lines of both streams. -/
def outputLines (stdout stderr : Bytes) : List String :=
  textLines stdout ++ textLines stderr

/-- How many lines at the end of the output are kept in a message. -/
def tailLength : Nat := 40

/-- The end of the output. -/
def outputTail (lines : List String) : String :=
  "\n".intercalate (lines.drop (lines.length - tailLength))

/-- What the end of the program says.  A program that was killed has the exit code `-1`. -/
def judge (code : Option Int) (stdout stderr : Bytes) (elapsed : Nat) : Except Error Verdict :=
  let code := code.getD (-1)
  let status := Status.ofCode code
  let lines := outputLines stdout stderr
  if status.isSuccess then .ok ⟨status, code, lines, elapsed⟩
  else .error (.rejected status code (outputTail lines))

/-! ### The program -/

/-- How the model checker is to be run. -/
structure Runner where
  /-- The archive. -/
  jar : Path
  /-- The program that runs it. -/
  java : Path := ⟨"java"⟩
  /-- How many workers it uses; at least one. -/
  workers : Nat := 1
  /-- After how many milliseconds it is given up. -/
  limit : Option Nat := none
  /-- The directory of the protocol's specification. -/
  library : Option Path := none
deriving DecidableEq, Repr

/-- The last name of a path, or all of a path that has none. -/
def shortName (p : Path) : String :=
  p.fileName?.getD p.text

namespace Runner

variable (r : Runner) (artifacts : ArtifactPaths)

/-- The arguments of the program. -/
def arguments : List String :=
  (r.library.map fun dir => s!"-DTLA-Library={dir.text}").toList ++
    [ "-cp", r.jar.text, "tlc2.TLC", "-workers", toString (max r.workers 1),
      "-config", shortName artifacts.config, shortName artifacts.spec ]

/-- The program with its arguments, in the directory of the trace module. -/
def command : Command where
  program := r.java
  arguments := r.arguments artifacts
  directory := artifacts.spec.directory?

variable {m : Type → Type} [Monad m] [Host m]

/-- Checks a trace. -/
def check : m (Except Error Verdict) := do
  if ← Host.isFile r.jar then
    match ← Host.launch (r.command artifacts) r.limit with
    | .notStarted reason => return .error (.notStarted r.java reason)
    | .stopped => return .error (.timeout (r.limit.getD 0))
    | .ended code stdout stderr elapsed => return judge code stdout stderr elapsed
  else return .error (.noJar r.jar)

end Runner

/-- The archive when none is given. -/
def defaultJar : Path := ⟨"tla2tools.jar"⟩

/-- The archive that is given, or the default one; it has to be a file. -/
def resolveJar {m : Type → Type} [Monad m] [Host m] (given : Option Path) :
    m (Except Error Path) := do
  let jar := given.getD defaultJar
  return if ← Host.isFile jar then .ok jar else .error (.noJar jar)

end Checker

end ReplicaTrace
