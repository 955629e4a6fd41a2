import ReplicaTrace.Association
import ReplicaTrace.Datum

/-!
# Tables in the making

A document adds to its tables piece by piece: a header names a table, and a key in several parts
goes through tables of its own.  What may still be added to a table depends on how it came to be
(`Origin`): a table is defined by one header at most, and parts of keys go only through tables that
have no header.  A value, also one that is a table, is complete at once.

* `Tree.alter` : changes the table at the end of a path.
* `Tree.add` : adds a value under a key in parts.
* `Tree.define` : what a header starts from and where its table goes.
-/

namespace ReplicaTrace

namespace Toml

/-- A name with the names of the tables around it. -/
structure Key where
  /-- The tables, from the outermost. -/
  path : List String
  /-- The name in the last of them. -/
  name : String
deriving DecidableEq, Repr

/-- How a table came to be. -/
inductive Origin where
  /-- It has a header. -/
  | header
  /-- A table below it has a header. -/
  | implied
  /-- It is a part of a key. -/
  | part
deriving DecidableEq, Repr

/-- What has a name in a table. -/
inductive Item where
  /-- A complete value. -/
  | value (d : Datum)
  /-- A table to which more may be added. -/
  | table (origin : Origin) (entries : List (String × Item))
  /-- A list of tables with a header each, of which the last may get more. -/
  | tables (earlier : List (List (String × Item))) (last : List (String × Item))
deriving Repr

/-- The content of a table. -/
abbrev Tree := List (String × Item)

namespace Tree

/-- Changes the table at the end of a path.  Tables that are missing on the way are added as `new`,
and the way is only free if it does not go, for a key, through a table with a header. -/
def alter (new : Origin) (change : Origin → Tree → Option Tree) (origin : Origin) (t : Tree) :
    List String → Option Tree
  | [] => change origin t
  | name :: path => do
    let item ← match t.lookup name with
      | none => (alter new change new [] path).map (Item.table new)
      | some (.value _) => none
      | some (.table o inner) =>
        if new = .part ∧ o = .header then none
        else (alter new change o inner path).map (Item.table o)
      | some (.tables earlier last) =>
        (alter new change .header last path).map (Item.tables earlier)
    return Association.put name item t

/-- Adds an item under a name that is not taken. -/
def insertNew (name : String) (item : Item) (t : Tree) : Option Tree :=
  if (t.lookup name).isSome then none else some (Association.put name item t)

/-- Adds a value to a table that has a header.  With a key in parts it goes into a table that is a
part of keys. -/
def add (t : Tree) (key : Key) (value : Datum) : Option Tree :=
  alter .part (fun origin inner =>
      if key.path ≠ [] ∧ origin ≠ .part then none else inner.insertNew key.name (.value value))
    .header t key.path

/-- Adds values one after the other. -/
def addAll (t : Tree) (values : List (Key × Datum)) : Option Tree :=
  values.foldlM (fun t kv => t.add kv.1 kv.2) t

/-- Gives a table its header, and then the values.  Only a table that is implied so far may be
there already. -/
def define (t : Tree) (key : Key) (values : List (Key × Datum)) : Option Tree :=
  alter .implied (fun _ inner => do
      let start ← match inner.lookup key.name with
        | none => some []
        | some (.table .implied entries) => some entries
        | some _ => none
      return Association.put key.name (.table .header (← addAll start values)) inner)
    .header t key.path

/-- Adds a table with the values at the end of a list of tables, or starts one. -/
def append (t : Tree) (key : Key) (values : List (Key × Datum)) : Option Tree :=
  alter .implied (fun _ inner => do
      let added ← addAll [] values
      match inner.lookup key.name with
      | none => return Association.put key.name (.tables [] added) inner
      | some (.tables earlier last) =>
        return Association.put key.name (.tables (earlier ++ [last]) added) inner
      | some _ => none)
    .header t key.path

end Tree

/-! ### The finished tables -/

mutual

/-- The value of an item. -/
def Item.datum : Item → Datum
  | .value d => d
  | .table _ entries => .table (entriesDatum entries)
  | .tables earlier last => .list (tablesDatum earlier ++ [.table (entriesDatum last)])

/-- The values of a table. -/
def entriesDatum : List (String × Item) → List (String × Datum)
  | [] => []
  | (name, item) :: entries => (name, item.datum) :: entriesDatum entries

/-- The values of several tables. -/
def tablesDatum : List (List (String × Item)) → List Datum
  | [] => []
  | entries :: tables => .table (entriesDatum entries) :: tablesDatum tables

end

/-- The value of a table. -/
def Tree.datum (t : Tree) : Datum := .table (entriesDatum t)

end Toml

end ReplicaTrace
