import Mathlib.Data.List.Nodup
import ReplicaTrace.Proofs.Results
import ReplicaTrace.Server.Registry

/-!
# The indices of a registry

The list of ids gives every index its server; for the way back, from a server to its index, a table
can be kept beside the list.  It is filled in one pass, each id being entered under its index, and
the pass stops at the first id that is in the table already.  The table agrees with the list on all
ids, and where an id is repeated, the pass stops at the one for which the list is refused.

* `IsFirstRepeat`, `firstRepeat_eq_some_iff` : the first id that equals an earlier one.
* `Registry.Locates` : a table has the indices of the ids; `Registry.Locates.insert` enters one id,
  `Registry.Locates.of_enter` all of them.
* `Registry.exists_ofList?_iff`, `Registry.ofList?_eq_error_iff` : which lists make a registry, and
  what is wrong with the others.
* `Registry.indexes_ofList` : ids and indices of a registry correspond one to one.
-/

namespace ReplicaTrace

/-! ### The first repeated id -/

/-- The id is the first one of the list that equals an earlier one. -/
def IsFirstRepeat (id : ServerId) (ids : List ServerId) : Prop :=
  ∃ before after, ids = before ++ id :: after ∧ id ∈ before ∧ before.Nodup

/-- The first repeated id stands behind ids of which none is repeated. -/
theorem firstRepeat_eq_some_iff {seen ids : List ServerId} {id : ServerId} :
    firstRepeat seen ids = some id ↔ ∃ before x after, ids = before ++ x :: after ∧
      x = id ∧ (x ∈ seen ∨ x ∈ before) ∧ firstRepeat seen before = none := by
  induction ids generalizing seen with
  | nil => simp [firstRepeat]
  | cons x xs ih =>
    rw [exists_cons_eq_append_cons]
    by_cases hx : x ∈ seen
    · simp [firstRepeat, hx]
    · simp [firstRepeat, hx, ih, or_left_comm, or_assoc]

theorem firstRepeat_nil_eq_some_iff {ids : List ServerId} {id : ServerId} :
    firstRepeat [] ids = some id ↔ IsFirstRepeat id ids := by
  simp [firstRepeat_eq_some_iff, firstRepeat_eq_none_iff, IsFirstRepeat]

theorem firstRepeat_nil_eq_none_iff {ids : List ServerId} :
    firstRepeat [] ids = none ↔ ids.Nodup := by
  simp [firstRepeat_eq_none_iff]

/-! ### Which lists make a registry -/

namespace Registry

variable {ids : List ServerId} {id : ServerId}

theorem ofList?_eq_error_iff {e : RegistryError} :
    ofList? ids = .error e ↔
      ids = [] ∧ e = .empty ∨
        ids ≠ [] ∧ ∃ id, firstRepeat [] ids = some id ∧ e = .duplicate id := by
  unfold ofList?
  split
  · next hnil => simp [hnil, eq_comm]
  · next hne =>
    split
    · next id hid => simp [hne, hid, eq_comm]
    · next hnone => simp [hne, hnone]

/-- There is a registry of ids exactly if there are ids and none is repeated. -/
theorem exists_ofList?_iff : (∃ r, ofList? ids = .ok r) ↔ ids ≠ [] ∧ ids.Nodup := by
  constructor
  · rintro ⟨r, hr⟩
    exact ids_of_ofList? hr ▸ ⟨r.nonempty, r.nodup⟩
  · rintro ⟨hne, hnodup⟩
    cases hresult : ofList? ids with
    | ok r => exact ⟨r, rfl⟩
    | error e =>
      rcases ofList?_eq_error_iff.1 hresult with ⟨hnil, -⟩ | ⟨-, id, hid, -⟩
      · exact absurd hnil hne
      · rw [firstRepeat_nil_eq_none_iff.2 hnodup] at hid
        cases hid

theorem ofList?_eq_empty_iff : ofList? ids = .error .empty ↔ ids = [] := by
  simp [ofList?_eq_error_iff]

theorem ofList?_eq_duplicate_iff :
    ofList? ids = .error (.duplicate id) ↔ IsFirstRepeat id ids := by
  have hne : IsFirstRepeat id ids → ids ≠ [] := by
    rintro ⟨before, after, rfl, -⟩
    simp
  simpa [ofList?_eq_error_iff, firstRepeat_nil_eq_some_iff] using hne

end Registry

/-! ### The table of indices -/

instance : Hashable ServerId := ⟨fun id => hash id.text⟩

theorem getElem?_concat_eq_some_iff {α : Type} {as : List α} {a b : α} {i : ℕ} :
    (as ++ [a])[i]? = some b ↔ as[i]? = some b ∨ i = as.length ∧ a = b := by
  rcases Nat.lt_trichotomy i as.length with hlt | rfl | hgt
  · simp [List.getElem?_append_left hlt, Nat.ne_of_lt hlt]
  · simp
  · have hnone : (as ++ [a])[i]? = none :=
      List.getElem?_eq_none (by rw [List.length_append, List.length_singleton]; omega)
    simp [hnone, Nat.le_of_lt hgt, Nat.ne_of_gt hgt]

namespace Registry

variable {ids seen : List ServerId} {id : ServerId} {table table' : Std.HashMap ServerId ℕ}

/-- Enters the ids in the table, under the indices from `index` on, up to the first id that is there
already. -/
def enter (table : Std.HashMap ServerId ℕ) (index : ℕ) :
    List ServerId → Except ServerId (Std.HashMap ServerId ℕ)
  | [] => .ok table
  | id :: ids =>
    let (known, table) := table.containsThenInsert id index
    if known then .error id else enter table (index + 1) ids

/-- The table of the ids with their indices, or the id that was met twice. -/
def indexTable (ids : List ServerId) : Except ServerId (Std.HashMap ServerId ℕ) :=
  enter ∅ 0 ids

theorem enter_cons (table : Std.HashMap ServerId ℕ) (index : ℕ) (id : ServerId)
    (ids : List ServerId) :
    enter table index (id :: ids) =
      if id ∈ table then .error id else enter (table.insert id index) (index + 1) ids := by
  rw [enter]
  simp [Std.HashMap.containsThenInsert_fst, Std.HashMap.containsThenInsert_snd]

/-- The table has the indices of the ids and no others. -/
def Locates (table : Std.HashMap ServerId ℕ) (ids : List ServerId) : Prop :=
  ∀ (id : ServerId) (i : ℕ), table[id]? = some i ↔ ids[i]? = some id

theorem locates_empty : Locates ∅ [] := by
  simp [Locates]

theorem Locates.mem_iff (h : Locates table ids) : id ∈ table ↔ id ∈ ids := by
  rw [Std.HashMap.mem_iff_isSome_getElem?, Option.isSome_iff_exists, List.mem_iff_getElem?]
  exact exists_congr (h id)

/-- **One id is entered**: a new id is put under the next index. -/
theorem Locates.insert (h : Locates table seen) (hnew : id ∉ seen) :
    Locates (table.insert id seen.length) (seen ++ [id]) := by
  intro x i
  rw [Std.HashMap.getElem?_insert, getElem?_concat_eq_some_iff, ← h x i]
  by_cases hx : id = x
  · subst hx
    have hnone : table[id]? = none := Std.HashMap.getElem?_eq_none (mt h.mem_iff.1 hnew)
    simp [hnone, eq_comm]
  · simp [hx]

/-- **All ids are entered**: the table that comes out has the indices of all of them. -/
theorem Locates.of_enter (h : Locates table seen)
    (henter : enter table seen.length ids = .ok table') : Locates table' (seen ++ ids) := by
  induction ids generalizing seen table with
  | nil =>
    cases henter
    rwa [List.append_nil]
  | cons id ids ih =>
    rw [enter_cons] at henter
    split at henter
    · cases henter
    · next hid =>
      have hstep : Locates (table.insert id seen.length) (seen ++ [id]) :=
        h.insert (mt h.mem_iff.2 hid)
      rw [List.append_cons]
      exact ih hstep (by rwa [List.length_append, List.length_singleton])

/-- The pass stops at the first id that is repeated. -/
theorem enter_eq_error_iff {index : ℕ} (h : ∀ x, x ∈ table ↔ x ∈ seen) :
    enter table index ids = .error id ↔ firstRepeat seen ids = some id := by
  induction ids generalizing seen table index with
  | nil => simp [enter, firstRepeat]
  | cons x ids ih =>
    rw [enter_cons, firstRepeat]
    by_cases hx : x ∈ seen
    · rw [if_pos ((h x).2 hx), if_pos hx, Except.error.injEq, Option.some.injEq]
    · rw [if_neg (mt (h x).1 hx), if_neg hx]
      exact ih fun y => by rw [Std.HashMap.mem_insert, h y, List.mem_cons, beq_iff_eq, eq_comm]

theorem indexTable_eq_error_iff : indexTable ids = .error id ↔ IsFirstRepeat id ids := by
  have hempty : ∀ x, x ∈ (∅ : Std.HashMap ServerId ℕ) ↔ x ∈ ([] : List ServerId) := by simp
  rw [indexTable, enter_eq_error_iff hempty, firstRepeat_nil_eq_some_iff]

/-! ### The correspondence -/

/-- **The registry has the ids under their indices**, and the two determine each other. -/
structure Indexes (r : Registry) (ids : List ServerId) : Prop where
  /-- The registry lists the ids as they are given. -/
  ids_eq : r.ids = ids
  /-- The id at an index below the size has this index. -/
  index_of_id : ∀ i < r.size, (r.id? i).bind r.index? = some i
  /-- An id has an index exactly if it is the id at this index. -/
  index_iff : ∀ id i, r.index? id = some i ↔ r.id? i = some id
  /-- The table that is filled with the ids in one pass has the same indices. -/
  table : ∃ table, indexTable ids = .ok table ∧ ∀ id, table[id]? = r.index? id

/-- The ids of a registry fill a table. -/
theorem exists_indexTable (r : Registry) :
    ∃ table, indexTable r.ids = .ok table ∧ ∀ id, table[id]? = r.index? id := by
  cases htable : indexTable r.ids with
  | error id =>
    have hrepeat : firstRepeat [] r.ids = some id :=
      firstRepeat_nil_eq_some_iff.2 (indexTable_eq_error_iff.1 htable)
    rw [firstRepeat_nil_eq_none_iff.2 r.nodup] at hrepeat
    cases hrepeat
  | ok table =>
    have hlocates : Locates table r.ids := locates_empty.of_enter htable
    refine ⟨table, rfl, fun id => Option.ext fun i => ?_⟩
    rw [hlocates id i, index?_eq_some_iff, id?]

theorem indexes_ids (r : Registry) : r.Indexes r.ids := by
  refine ⟨rfl, fun i hi => ?_, fun _ _ => index?_eq_some_iff, r.exists_indexTable⟩
  have hid : r.id? i = some r.ids[i] := List.getElem?_eq_getElem hi
  rw [hid, Option.bind_some, index?_eq_some_iff, hid]

/-- **Ids and indices of a registry correspond one to one.**  A list of ids makes a registry exactly
if it is not empty and no id is repeated, and then every index below the size has one id and every
id of the list one index, in the registry as in the table that is filled beside it.  Without ids
there is no registry; of a list with repeated ids the first one that equals an earlier one is
reported, which is also the id at which filling the table stops. -/
theorem indexes_ofList (ids : List ServerId) :
    ((∃ r, ofList? ids = .ok r) ↔ ids ≠ [] ∧ ids.Nodup) ∧
      (∀ r, ofList? ids = .ok r → r.Indexes ids) ∧
      (ofList? ids = .error .empty ↔ ids = []) ∧
      ∀ id, (ofList? ids = .error (.duplicate id) ↔ IsFirstRepeat id ids) ∧
        (indexTable ids = .error id ↔ IsFirstRepeat id ids) := by
  refine ⟨exists_ofList?_iff, fun r hr => ?_, ofList?_eq_empty_iff, fun id => ?_⟩
  · exact ids_of_ofList? hr ▸ r.indexes_ids
  · exact ⟨ofList?_eq_duplicate_iff, indexTable_eq_error_iff⟩

/-- The id that comes back first is reported, not the one that was there first. -/
example : ofList? [⟨"0"⟩, ⟨"1"⟩, ⟨"2"⟩, ⟨"1"⟩, ⟨"0"⟩] = .error (.duplicate ⟨"1"⟩) := rfl

end Registry

end ReplicaTrace
