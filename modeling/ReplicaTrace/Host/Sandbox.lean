import ReplicaTrace.Host.Disk

/-!
# Sandboxes

A host as a value: a disk with a working directory, environment variables, and programs of which it
is known beforehand what they will do, at once.  `Sandbox` is the monad of programs that change such
a `World`; what they did can be read off the world that they leave.

* `World.programOf` : the program of a command, named by its path or by a bare name.
* `World.launch` : what becomes of a program that is started.
-/

namespace ReplicaTrace

/-- What a program does when it is started. -/
inductive Behaviour where
  /-- It ends, with an exit code unless it is killed, and has written this. -/
  | ends (code : Option Int) (stdout stderr : Bytes)
  /-- It never ends. -/
  | hangs
deriving DecidableEq, Repr

/-- A program that was started. -/
structure Started where
  /-- Its arguments. -/
  arguments : List String
  /-- The directory in which it was started. -/
  directory : Names
deriving DecidableEq, Repr

/-- The world around a run. -/
structure World where
  /-- The disk. -/
  disk : Disk
  /-- The working directory. -/
  workingDir : Names
  /-- The environment variables. -/
  environment : List (String × String)
  /-- The programs, by the place of their files. -/
  programs : List (Names × Behaviour)
  /-- The programs that were started so far. -/
  started : List Started
deriving DecidableEq, Repr

/-- Programs that run in a world. -/
abbrev Sandbox := StateM World

namespace World

/-- The directory in which a command is to be started. -/
def directoryOf (w : World) (c : Command) : Except OsError Names :=
  match c.directory with
  | none => .ok w.workingDir
  | some p => do
    let names ← w.disk.resolve w.workingDir p
    if w.disk.lookup names = some .directory then return names else throw .notDirectory

/-- The program to which a path leads from a directory.  Files and directories that are no programs
cannot be started. -/
def programAt (w : World) (directory : Names) (p : Path) : Except OsError Behaviour := do
  match w.programs.lookup (← w.disk.resolve directory p) with
  | some behaviour => return behaviour
  | none => throw .notPermitted

/-- The directories in which a bare name is looked for, if the environment says which: they stand
between colons, and no name at all means the directory in which the program is to be started. -/
def searchDirs? (w : World) : Option (List Path) :=
  (w.environment.lookup "PATH").map fun dirs =>
    (dirs.toList.splitOn ':').map fun dir => ⟨String.ofList dir⟩

/-- Looks for a bare name in one directory after the other, given the fault met so far.  A directory
in which the name is missing, or is not that of a program, is passed over.  If all are, the fault is
that of the last one, unless one of them has something of this name that is no program. -/
def search (w : World) (directory : Names) (name : String) :
    OsError → List Path → Except OsError Behaviour
  | fault, [] => .error fault
  | fault, dir :: dirs =>
    match w.programAt directory (dir.join name) with
    | .ok behaviour => .ok behaviour
    | .error e =>
      if e = .notFound ∨ e = .notDirectory ∨ e = .notPermitted then
        w.search directory name (if fault = .notPermitted then fault else e) dirs
      else .error e

/-- Why a bare name starts nothing where the environment does not say in which directories to look
for it: the system has directories of its own for this, which hold no program here, and `.` and `..`
are directories themselves. -/
def bareFault (name : String) : OsError :=
  if name = "." ∨ name = ".." then .notPermitted
  else if Disk.isTooLong name then .nameTooLong
  else .notFound

/-- The program of a command that is started in a directory: a path with a slash is followed from
there, and a bare name is looked for. -/
def programOf (w : World) (c : Command) (directory : Names) : Except OsError Behaviour :=
  let name := c.program.text
  if '/' ∈ name.toList then w.programAt directory c.program
  else if name = "" then .error .notFound
  else
    match w.searchDirs? with
    | some dirs => w.search directory name .notFound dirs
    | none => .error (bareFault name)

/-- What a command starts, and in which directory. -/
def startOf (w : World) (c : Command) : Except OsError (Names × Behaviour) := do
  if c.hasNull then throw .nullInCommand
  let directory ← w.directoryOf c
  return (directory, ← w.programOf c directory)

/-- Starts a program.  One that never ends is stopped, and so is any that has no time at all. -/
def launch (w : World) (c : Command) (limit : Option Nat) : Launch × World :=
  match w.startOf c with
  | .error e => (.notStarted e, w)
  | .ok (dir, behaviour) =>
    let w := { w with started := w.started ++ [⟨c.arguments, dir⟩] }
    match behaviour with
    | .ends code stdout stderr =>
      (if limit = some 0 then .stopped else .ended code stdout stderr 0, w)
    | .hangs => (.stopped, w)

/-- The path of a directory. -/
def pathOf (names : Names) : Path := ⟨"/" ++ "/".intercalate names⟩

end World

instance : Host Sandbox where
  readFile p := fun w => (w.disk.read w.workingDir p, w)
  writeFile p content := fun w =>
    match w.disk.write w.workingDir p content with
    | .ok disk => (.ok (), { w with disk })
    | .error e => (.error e, w)
  makeDir p := fun w =>
    match w.disk.makeDir w.workingDir p with
    | .ok disk => (.ok (), { w with disk })
    | .error e => (.error e, w)
  isFile p := fun w => (w.disk.isFile w.workingDir p, w)
  isDir p := fun w => (w.disk.isDir w.workingDir p, w)
  isPresent p := fun w => ((w.disk.node? w.workingDir p).isSome, w)
  workingDir := fun w => (World.pathOf w.workingDir, w)
  environment? name := fun w => (w.environment.lookup name, w)
  launch command limit := fun w => w.launch command limit

end ReplicaTrace
