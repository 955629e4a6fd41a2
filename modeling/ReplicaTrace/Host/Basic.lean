import ReplicaTrace.Path
import ReplicaTrace.Text.Utf8

/-!
# The host

All that a run needs of the world around it: files, the working directory, environment variables,
and other programs.  `Host m` says that a program in the monad `m` can ask for these; the rest of
the library is written for any host.

* `Path.fault?` : why a path can lead nowhere, whatever is on the disk.
* `Host.readText` : the content of a file as text.
* `Host.makeDirs` : a directory with those on the way to it.
-/

namespace ReplicaTrace

/-- Why the system refuses to do something with a path or to start a program. -/
inductive OsError where
  /-- Nothing has the path. -/
  | notFound
  /-- The file is no program. -/
  | notPermitted
  /-- Something has the path already. -/
  | alreadyExists
  /-- Something on the way is no directory. -/
  | notDirectory
  /-- The path is that of a directory. -/
  | isDirectory
  /-- The path, or a name in it, has too many bytes. -/
  | nameTooLong
  /-- The path holds a null character. -/
  | nullInPath
  /-- The program, its directory or one of its arguments holds a null character. -/
  | nullInCommand
  /-- Any other reason, in the system's words. -/
  | other (message : String)
deriving DecidableEq, Repr

/-- What the system says about the reason. -/
def OsError.message : OsError → String
  | .notFound => "No such file or directory (os error 2)"
  | .notPermitted => "Permission denied (os error 13)"
  | .alreadyExists => "File exists (os error 17)"
  | .notDirectory => "Not a directory (os error 20)"
  | .isDirectory => "Is a directory (os error 21)"
  | .nameTooLong => "File name too long (os error 36)"
  | .nullInPath => "file name contained an unexpected NUL byte"
  | .nullInCommand => "nul byte found in provided data"
  | .other message => message

/-- The text holds a null character, with which the system would take it to end. -/
def hasNull (text : String) : Bool :=
  text.toList.contains '\x00'

/-- How many bytes a name may have. -/
def maxNameBytes : Nat := 255

/-- How many bytes a path may have. -/
def maxPathBytes : Nat := 4095

/-- Why the path can lead nowhere, whatever is on the disk. -/
def Path.fault? (p : Path) : Option OsError :=
  if hasNull p.text then some .nullInPath
  else if p.text = "" then some .notFound
  else if maxPathBytes < p.text.utf8ByteSize then some .nameTooLong
  else none

/-- Another program with its arguments, and the directory to start it in if it is not the
working directory. -/
structure Command where
  /-- The program. -/
  program : Path
  /-- Its arguments. -/
  arguments : List String
  /-- The directory to start it in. -/
  directory : Option Path
deriving DecidableEq, Repr

/-- Some text of the command holds a null character. -/
def Command.hasNull (c : Command) : Bool :=
  (c.program.text :: c.arguments ++ (c.directory.map Path.text).toList).any ReplicaTrace.hasNull

/-- What became of a program that was to be started. -/
inductive Launch where
  /-- The program could not be started. -/
  | notStarted (reason : OsError)
  /-- The program had not ended when its time was up, and was stopped. -/
  | stopped
  /-- The program ended after so many milliseconds, with an exit code unless it was killed, and
  wrote this. -/
  | ended (code : Option Int) (stdout stderr : Bytes) (elapsed : Nat)
deriving DecidableEq, Repr

/-- What a program in the monad `m` can ask of the world around it. -/
class Host (m : Type → Type) where
  /-- The content of a file. -/
  readFile : Path → m (Except OsError Bytes)
  /-- Gives a file its content, in place of what it may have had. -/
  writeFile : Path → Bytes → m (Except OsError Unit)
  /-- Creates a directory. -/
  makeDir : Path → m (Except OsError Unit)
  /-- The path is that of a file. -/
  isFile : Path → m Bool
  /-- The path is that of a directory. -/
  isDir : Path → m Bool
  /-- Something has the path. -/
  isPresent : Path → m Bool
  /-- The working directory. -/
  workingDir : m Path
  /-- The value of an environment variable. -/
  environment? : String → m (Option String)
  /-- Starts a program and waits for its end, at most the given milliseconds. -/
  launch : Command → Option Nat → m Launch

namespace Host

variable {m : Type → Type} [Monad m] [Host m]

/-- Reads a file as text. -/
def readText (p : Path) : m (Except OsError String) := do
  match ← readFile p with
  | .error e => return .error e
  | .ok bytes =>
    match Utf8.decode? bytes with
    | some text => return .ok (String.ofList text)
    | none => return .error (.other "stream did not contain valid UTF-8")

/-- Passes over the failure to create what is a directory already. -/
def orPresent (p : Path) (result : Except OsError Unit) : m (Except OsError Unit) := do
  match result with
  | .ok () => return .ok ()
  | .error e => return if ← isDir p then .ok () else .error e

/-- Creates the first directory, after those that follow it if it lacks one on the way. -/
def makeWays : List Path → m (Except OsError Unit)
  | [] => return .ok ()
  | p :: ps => do
    match ← makeDir p with
    | .error .notFound =>
      match ← makeWays ps with
      | .ok () => orPresent p (← makeDir p)
      | .error e => return .error e
    | result => orPresent p result

/-- Creates a directory and those on the way to it, as far as they are missing. -/
def makeDirs (p : Path) : m (Except OsError Unit) :=
  makeWays p.waysTo

end Host

end ReplicaTrace
