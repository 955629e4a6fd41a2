import ReplicaTrace.Program

/-!
# The command

The program on the system itself.  The report is said line by line on the error stream.  Other
programs are not started here, so that a trace is written but the model checker is not run.
-/

namespace ReplicaTrace

/-- The reason of a failure by its number, which may be negated. -/
def reasonOfCode (code : UInt32) (message : String) : OsError :=
  match (if code < 0x80000000 then code else 0 - code).toNat with
  | 2 => .notFound
  | 13 => .notPermitted
  | 17 => .alreadyExists
  | 20 => .notDirectory
  | 21 => .isDirectory
  | 36 => .nameTooLong
  | _ => .other message

/-- The reason of a failure. -/
def reasonOf (e : IO.Error) : OsError :=
  match e with
  | .noFileOrDirectory _ code message => reasonOfCode code message
  | .alreadyExists _ code message => reasonOfCode code message
  | .inappropriateType _ code message => reasonOfCode code message
  | .invalidArgument _ code message => reasonOfCode code message
  | .permissionDenied _ code message => reasonOfCode code message
  | e => .other e.toString

/-- Tries something with a path on the system. -/
def tried {α : Type} (p : Path) (act : IO α) : IO (Except OsError α) := do
  if let some fault := p.fault? then return .error fault
  match ← act.toBaseIO with
  | .ok a => return .ok a
  | .error e => return .error (reasonOf e)

/-- What has a path, if something has. -/
def kindOf (p : Path) : IO (Option IO.FS.FileType) := do
  let metadata ← tried p do ((← IO.currentDir) / p.text).metadata
  return metadata.toOption.map (·.type)

instance : Host IO where
  readFile p := tried p do return (← IO.FS.readBinFile p.text).toList
  writeFile p content := tried p (IO.FS.writeBinFile p.text ⟨content.toArray⟩)
  makeDir p := tried p (IO.FS.createDir p.text)
  isFile p := return (← kindOf p) == some .file
  isDir p := return (← kindOf p) == some .dir
  isPresent p := return (← kindOf p).isSome
  workingDir := return ⟨(← IO.currentDir).toString⟩
  environment? name := IO.getEnv name
  launch _ _ := return .notStarted (.other "programs cannot be started")

/-- Says a report line by line. -/
def sayReport (r : Report) : IO Unit :=
  r.log.forM fun e => IO.eprintln s!"{e.level.label} {e.message}"

/-- Runs the program and tells its exit code. -/
def runCommand (arguments : List String) : IO UInt32 := do
  match ← (program sayReport arguments).run with
  | .ok finished => return finished.outcome.exitCode.toUInt32
  | .error e =>
    if e.exitCode = 0 then IO.println e.message else IO.eprintln s!"ERROR {e.message}"
    return e.exitCode.toUInt32

end ReplicaTrace

/-- The program. -/
def main (arguments : List String) : IO UInt32 :=
  ReplicaTrace.runCommand arguments
