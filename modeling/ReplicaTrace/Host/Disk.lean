import ReplicaTrace.Association
import ReplicaTrace.Host.Basic

/-!
# Disks

A disk as a value: which files and directories there are, by their names from the root, and what
the files hold.  A path is followed name by name from the root or from a working directory; every
name but the last has to be that of a directory, and none may be too long.

There are no links: what has one list of names is never what has another.  Names are told apart
character by character, so that upper and lower case differ.

* `Disk.follow` : where a path leads.
* `Disk.read`, `Disk.write`, `Disk.makeDir` : what can be done with a path.
* `Disk.lookup_put` : writing changes what has the path, and nothing else.
-/

namespace ReplicaTrace

/-- What has a path. -/
inductive Node where
  | file (content : Bytes)
  | directory
deriving DecidableEq, Repr

/-- Names from the root on. -/
abbrev Names := List String

/-- The files and directories, by their names from the root.  None is a link to another, and names
that differ in case are different names. -/
structure Disk where
  /-- All but the root. -/
  nodes : List (Names × Node)
deriving DecidableEq, Repr

namespace Disk

/-- What has the names; the root is a directory. -/
def lookup (d : Disk) (names : Names) : Option Node :=
  if names = [] then some .directory else d.nodes.lookup names

/-- Puts a file or directory under the names, in place of what may be there. -/
def put (d : Disk) (names : Names) (node : Node) : Disk :=
  ⟨Association.put names node d.nodes⟩

theorem lookup_put (d : Disk) (names : Names) (node : Node) (ns : Names) (h : names ≠ []) :
    (d.put names node).lookup ns = if ns = names then some node else d.lookup ns := by
  unfold lookup put
  by_cases hn : ns = []
  · subst hn
    simp [Ne.symm h]
  · simp [hn, Association.lookup_put]

/-! ### Following paths -/

/-- The name has too many bytes. -/
def isTooLong (name : String) : Bool :=
  maxNameBytes < name.utf8ByteSize

/-- The names between the slashes of a path. -/
def segments (p : Path) : List String :=
  (p.text.toList.splitOn '/').map String.ofList

/-- Goes on from a place along the names of a path. -/
def follow (d : Disk) (at_ : Names) : List String → Except OsError Names
  | [] => .ok at_
  | name :: rest =>
    match d.lookup at_ with
    | none => .error .notFound
    | some (.file _) => .error .notDirectory
    | some .directory =>
      if name = "" ∨ name = "." then follow d at_ rest
      else if name = ".." then follow d at_.dropLast rest
      else if isTooLong name then .error .nameTooLong
      else if (d.lookup (at_ ++ [name])).isSome then follow d (at_ ++ [name]) rest
      else .error .notFound

/-- Where a path starts. -/
def startOf (workingDir : Names) (p : Path) : Names :=
  if p.isAbsolute then [] else workingDir

variable (d : Disk) (workingDir : Names)

/-- Where a path leads. -/
def resolve (p : Path) : Except OsError Names :=
  match p.fault? with
  | some fault => .error fault
  | none => d.follow (startOf workingDir p) (segments p)

/-- What has the path. -/
def node? (p : Path) : Option Node :=
  match d.resolve workingDir p with
  | .ok names => d.lookup names
  | .error _ => none

/-- The path is that of a file. -/
def isFile (p : Path) : Bool :=
  match d.node? workingDir p with
  | some (.file _) => true
  | _ => false

/-- The path is that of a directory. -/
def isDir (p : Path) : Bool :=
  d.node? workingDir p == some .directory

/-- The content of a file. -/
def read (p : Path) : Except OsError Bytes := do
  match d.lookup (← d.resolve workingDir p) with
  | some (.file content) => return content
  | some .directory => throw .isDirectory
  | none => throw .notFound

/-! ### Changing the disk -/

/-- Where something is to be put: its directory, its name, and whether slashes follow the name. -/
structure Target where
  /-- The directory. -/
  directory : Names
  /-- The name. -/
  name : String
  /-- The path ends with a slash. -/
  slash : Bool
deriving DecidableEq, Repr

/-- Where a path would put something; `none` for the root. -/
def target? (p : Path) : Except OsError (Option Target) := do
  if let some fault := p.fault? then throw fault
  let all := segments p
  let names := (all.reverse.dropWhile (· == "")).reverse
  match names.getLast? with
  | none => return none
  | some name =>
    let directory ← d.follow (startOf workingDir p) names.dropLast
    match d.lookup directory with
    | some .directory => return some ⟨directory, name, names.length < all.length⟩
    | some (.file _) => throw .notDirectory
    | none => throw .notFound

/-- Gives a file its content. -/
def write (p : Path) (content : Bytes) : Except OsError Disk := do
  match ← d.target? workingDir p with
  | none => throw .isDirectory
  | some t =>
    let names := t.directory ++ [t.name]
    if t.slash ∨ t.name = "." ∨ t.name = ".." ∨ d.lookup names = some .directory then
      throw .isDirectory
    if isTooLong t.name then throw .nameTooLong
    return d.put names (.file content)

/-- Creates a directory. -/
def makeDir (p : Path) : Except OsError Disk := do
  match ← d.target? workingDir p with
  | none => throw .alreadyExists
  | some t =>
    let names := t.directory ++ [t.name]
    if t.name = "." ∨ t.name = ".." ∨ (d.lookup names).isSome then throw .alreadyExists
    if isTooLong t.name then throw .nameTooLong
    return d.put names .directory

end Disk

end ReplicaTrace
