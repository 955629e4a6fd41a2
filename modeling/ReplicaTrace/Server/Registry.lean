import ReplicaTrace.Event.Basic

/-!
# The registry of servers

The registry lists the servers of the cluster, each once.  The place of a server in it is the
*index* under which everything that is kept per server is found.

* `Registry.ofList?` : a registry of given ids; an empty list and a repeated id are faults.
* `Registry.discover` : the registry of all servers that events name, in the natural order.  Where
  the natural comparison is no preorder, the order of the result is an assumption.
* `Registry.index?_eq_some_iff` : index and id determine each other.
-/

namespace ReplicaTrace

/-- The servers of the cluster. -/
structure Registry where
  /-- The ids; the place of an id is the index of its server. -/
  ids : List ServerId
  /-- There is a server. -/
  nonempty : ids ≠ []
  /-- No id occurs twice. -/
  nodup : ids.Nodup

/-- Why a list of ids is no registry. -/
inductive RegistryError where
  /-- The list is empty. -/
  | empty
  /-- The id occurs a second time. -/
  | duplicate (id : ServerId)
deriving DecidableEq, Repr

/-- What is said about the fault. -/
def RegistryError.message : RegistryError → String
  | .empty => "cluster has no servers"
  | .duplicate id => s!"server {id.text} listed more than once"

/-- The first id that is among those seen before it. -/
def firstRepeat (seen : List ServerId) : List ServerId → Option ServerId
  | [] => none
  | id :: ids => if id ∈ seen then some id else firstRepeat (id :: seen) ids

theorem firstRepeat_eq_none_iff {seen ids : List ServerId} :
    firstRepeat seen ids = none ↔ ids.Nodup ∧ ∀ id ∈ ids, id ∉ seen := by
  induction ids generalizing seen with
  | nil => simp [firstRepeat]
  | cons id ids ih =>
    by_cases h : id ∈ seen
    · simp [firstRepeat, h]
    · simp only [firstRepeat, h, if_false, ih, List.nodup_cons, List.mem_cons, not_or,
        forall_eq_or_imp, not_false_eq_true, true_and]
      constructor
      · rintro ⟨hn, hs⟩
        exact ⟨⟨fun hm => (hs id hm).1 rfl, hn⟩, fun x hx => (hs x hx).2⟩
      · rintro ⟨⟨hm, hn⟩, hs⟩
        exact ⟨hn, fun x hx => ⟨fun he => hm (he ▸ hx), hs x hx⟩⟩

/-- Among ids of which none is repeated, an id is found at its only place. -/
theorem idxOf?_eq_some_iff_of_nodup {ids : List ServerId} (h : ids.Nodup) {id : ServerId}
    {i : Nat} : ids.idxOf? id = some i ↔ ids[i]? = some id := by
  induction ids generalizing i with
  | nil => simp
  | cons x xs ih =>
    rw [List.nodup_cons] at h
    rw [List.idxOf?_cons]
    by_cases hx : x = id
    · subst hx
      cases i with
      | zero => simp
      | succ i =>
        simp only [beq_self_eq_true, if_true, Option.some.injEq, List.getElem?_cons_succ]
        constructor
        · omega
        · exact fun hmem => absurd (List.mem_of_getElem? hmem) h.1
    · cases i with
      | zero => simp [hx]
      | succ i => simp [hx, ih h.2]

namespace Registry

/-- The registry of the ids, in their order. -/
def ofList? (ids : List ServerId) : Except RegistryError Registry :=
  if h : ids = [] then .error .empty
  else
    match hr : firstRepeat [] ids with
    | some id => .error (.duplicate id)
    | none => .ok ⟨ids, h, (firstRepeat_eq_none_iff.1 hr).1⟩

/-- The registry of the servers that the events name, in the natural order of their ids.  Where the
natural comparison is no preorder on the ids, what sorting by it gives is left open, even that it
gives anything.  For such ids the order here, that of a merge sort from the order in which the
events name them first, is an assumption. -/
def discover (events : List Event) : Except RegistryError Registry :=
  ofList? ((events.map Event.server).eraseDups.mergeSort ServerId.naturalLe)

variable (r : Registry)

/-- The number of servers. -/
def size : Nat := r.ids.length

/-- The index of a server. -/
def index? (id : ServerId) : Option Nat := r.ids.idxOf? id

/-- The server with the index. -/
def id? (index : Nat) : Option ServerId := r.ids[index]?

/-- The registry knows the server of the event. -/
def knows (e : Event) : Bool := (r.index? e.server).isSome

variable {r}

/-- The index of an id is the place at which it stands. -/
theorem index?_eq_some_iff {id : ServerId} {i : Nat} :
    r.index? id = some i ↔ r.id? i = some id :=
  idxOf?_eq_some_iff_of_nodup r.nodup

/-- The registry knows the servers that it lists. -/
theorem knows_eq (r : Registry) : r.knows = fun e => decide (e.server ∈ r.ids) := by
  funext e
  rw [Bool.eq_iff_iff, decide_eq_true_eq]
  simp [knows, index?, Option.isSome_iff_ne_none, List.idxOf?_eq_none_iff]

/-- The registry keeps the given list. -/
theorem ids_of_ofList? {ids : List ServerId} (h : ofList? ids = .ok r) : r.ids = ids := by
  unfold ofList? at h
  split at h
  · cases h
  · split at h
    · cases h
    · cases h
      rfl

end Registry

end ReplicaTrace
