/-!
# Paths

A path is the text by which a file is named.  Paths are Unicode text only: a name made of bytes that
encode no text has no path here.  A path keeps the spelling that it was given, but is read as its
*parts*: the slashes at its start and the names between the others, where empty names and single
points say nothing and are left out, except a single point at the start of a relative path.

* `fileName?`, `fileStem?`, `parent?` : the last name, that name up to its last point, and the path
  without it.
* `join` : the path of a name in a directory; a rooted name stands for itself.
* `absolute` : the path from the root, given the working directory.  Parts `..` stay, since what
  they mean depends on the disk.
-/

namespace ReplicaTrace

/-- The name of a file or directory.  Only names that are Unicode text have a path. -/
structure Path where
  /-- The path as it was given. -/
  text : String
deriving DecidableEq, Repr

namespace Path

/-- What a path says. -/
structure Parts where
  /-- The number of slashes at the start; without any the path is relative. -/
  slashes : Nat
  /-- The names. -/
  names : List String
deriving DecidableEq, Repr

/-- The names that say something. -/
def meaningful (segments : List (List Char)) : List String :=
  (segments.filter fun s => s != [] && s != ['.']).map String.ofList

/-- The parts of a path. -/
def parts (p : Path) : Parts :=
  let slashes := (p.text.toList.takeWhile (· == '/')).length
  let segments := (p.text.toList.dropWhile (· == '/')).splitOn '/'
  match slashes, segments with
  | 0, ['.'] :: rest => ⟨0, "." :: meaningful rest⟩
  | _, _ => ⟨slashes, meaningful segments⟩

/-- The path that has the parts. -/
def ofParts (ps : Parts) : Path :=
  if ps.names = [] then ⟨if ps.slashes = 0 then "" else "/"⟩
  else ⟨String.ofList (List.replicate ps.slashes '/') ++ "/".intercalate ps.names⟩

/-- The path starts at the root. -/
def isAbsolute (p : Path) : Bool :=
  p.text.toList.head? == some '/'

/-- The last name, unless it is `.` or `..`. -/
def fileName? (p : Path) : Option String :=
  match p.parts.names.getLast? with
  | some name => if name = "." ∨ name = ".." then none else some name
  | none => none

/-- The part of a name before its last point, if something is before it. -/
def stem (name : String) : String :=
  match (name.toList.reverse.dropWhile (· != '.')).drop 1 with
  | [] => name
  | before => String.ofList before.reverse

/-- The last name up to its last point. -/
def fileStem? (p : Path) : Option String :=
  p.fileName?.map stem

/-- The path without its last name; a path of no names has none. -/
def parent? (p : Path) : Option Path :=
  if p.parts.names = [] then none
  else some (ofParts { p.parts with names := p.parts.names.dropLast })

/-- The directory of a file, `none` when the path is only a name. -/
def directory? (p : Path) : Option Path :=
  p.parent?.filter (·.text != "")

/-- The path of a name in a directory. -/
def join (dir : Path) (name : String) : Path :=
  if name.toList.head? = some '/' then ⟨name⟩
  else if dir.text = "" ∨ dir.text.toList.getLast? = some '/' then ⟨dir.text ++ name⟩
  else ⟨dir.text ++ "/" ++ name⟩

/-- The path and those on the way to it, from the longest to the shortest. -/
def waysTo (p : Path) : List Path :=
  if p.text = "" then []
  else
    let ps := p.parts
    let shorter := (List.range ps.names.length).reverse.map fun n =>
      ofParts { ps with names := ps.names.take n }
    p :: shorter.filter (·.text != "")

/-- The path from the root.  Two slashes at the start, and no more, are kept. -/
def absolute (workingDir p : Path) : Path :=
  let names := p.parts.names.filter (· != ".")
  if p.parts.slashes = 0 then
    ofParts { workingDir.parts with names := workingDir.parts.names ++ names }
  else ofParts ⟨if p.parts.slashes = 2 then 2 else 1, names⟩

end Path

end ReplicaTrace
