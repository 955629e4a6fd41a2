import ReplicaTrace.Association

/-!
# Fields of a log line

The last part of a log line is a list of fields `key:value`, separated by commas.  `Fields` keeps
them in the order in which the keys first occur, each key once and with its latest value:

* `keys_insert` : a new key goes to the end, a known one stays where it is.
* `get?_insert` : after an insertion the key has the inserted value, and every other key the value
  that it had.
* `Fields.read` : a text is read field by field; the first field without a colon, or with nothing
  before it, is the fault.
-/

namespace ReplicaTrace

/-- Keys with values, in the order of the keys' first occurrence. -/
structure Fields where
  /-- The keys with their values. -/
  entries : List (String × String)
  /-- No key occurs twice. -/
  nodup : (entries.map Prod.fst).Nodup

namespace Fields

/-- The keys, in order. -/
def keys (f : Fields) : List String :=
  f.entries.map Prod.fst

/-- The number of keys. -/
def size (f : Fields) : Nat :=
  f.entries.length

@[ext] theorem ext {f g : Fields} (h : f.entries = g.entries) : f = g := by
  cases f
  cases g
  simpa using h

instance : DecidableEq Fields := fun f g =>
  decidable_of_iff (f.entries = g.entries) ⟨ext, fun h => h ▸ rfl⟩

/-- No fields. -/
def empty : Fields := ⟨[], by simp⟩

/-- Puts a value to a key: a known key keeps its place and takes the new value. -/
def insert (f : Fields) (key value : String) : Fields where
  entries := Association.put key value f.entries
  nodup := by
    rw [Association.map_fst_put]
    split
    · exact f.nodup
    · next h => exact List.nodup_append.2 ⟨f.nodup, by simp, by
        intro a ha b hb
        rw [List.mem_singleton] at hb
        rintro rfl
        exact h (hb ▸ ha)⟩

/-- The value of a key. -/
def get? (f : Fields) (key : String) : Option String :=
  f.entries.lookup key

/-- The fields that remain when the pairs are inserted one after the other. -/
def ofList (pairs : List (String × String)) : Fields :=
  pairs.foldl (fun f p => f.insert p.1 p.2) empty

/-! ### Insertion -/

@[simp] theorem entries_insert (f : Fields) (key value : String) :
    (f.insert key value).entries = Association.put key value f.entries := rfl

theorem keys_insert (f : Fields) (key value : String) :
    (f.insert key value).keys = if key ∈ f.keys then f.keys else f.keys ++ [key] :=
  Association.map_fst_put key value f.entries

theorem get?_insert (f : Fields) (key value k : String) :
    (f.insert key value).get? k = if k = key then some value else f.get? k :=
  Association.lookup_put key value f.entries k

/-! ### Text -/

/-- Cuts a field at its first colon; there has to be one, and not at the start. -/
def readField (cs : List Char) : Option (String × String) :=
  match cs.span (· != ':') with
  | (key@(_ :: _), _ :: value) => some (String.ofList key, String.ofList value)
  | _ => none

/-- Inserts the fields one after the other, up to the first that is none. -/
def readAll (f : Fields) : List (List Char) → Except String Fields
  | [] => .ok f
  | cs :: rest =>
    match readField cs with
    | some (key, value) => readAll (f.insert key value) rest
    | none => .error (String.ofList cs)

/-- Reads fields separated by commas.  The error is the first field that is none. -/
def read (text : List Char) : Except String Fields :=
  readAll empty (text.splitOn ',')

/-- Writes the fields with commas between them. -/
def write (f : Fields) : List Char :=
  [','].intercalate (f.entries.map fun e => e.1.toList ++ ':' :: e.2.toList)

end Fields

end ReplicaTrace
