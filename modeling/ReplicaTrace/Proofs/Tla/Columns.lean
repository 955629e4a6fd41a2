import ReplicaTrace.Proofs.History.Snapshots
import ReplicaTrace.Proofs.Settings.Rules
import ReplicaTrace.Tla.TraceModule

/-!
# Columns of a snapshot as values

A snapshot has four columns that the protocol's variables stand for.  From one snapshot to the next
a column changes only at the acting server, to the value that the acting server has then.

* `Column` : the four columns; `Snapshot.column`, `VariableNames.name` and `Values.get` are what a
  snapshot, the settings and the values of one server have for each.
* `Snapshot.Follows.column_eq_set` : one step.
* `Snapshot.column_initial` : the start.
-/

namespace ReplicaTrace

/-- What the protocol has a variable for. -/
inductive Column where
  /-- The roles. -/
  | role
  /-- The current slots. -/
  | slot
  /-- The logs. -/
  | log
  /-- The ballots. -/
  | ballot
deriving DecidableEq

/-- The name of the variable for a column. -/
def VariableNames.name (names : VariableNames) : Column → String
  | .role => names.role
  | .slot => names.slot
  | .log => names.log
  | .ballot => names.ballot

theorem VariableNames.name_mem_toList (names : VariableNames) (c : Column) :
    names.name c ∈ names.toList := by
  cases c <;> simp [name, toList]

theorem TraceSettings.Sound.isIdentifier_name {t : TraceSettings} (h : t.Sound) (c : Column) :
    isIdentifier (t.names.name c) = true :=
  h.variableNames _ (t.names.name_mem_toList c)

open Tla

theorem traceIndex_ne_name {names : VariableNames} (h : traceIndex ∉ names.toList) (c : Column) :
    traceIndex ≠ names.name c :=
  fun he => h (he ▸ names.name_mem_toList c)

/-- The values of a column, server by server. -/
def Snapshot.column (s : Snapshot) : Column → List Value
  | .role => s.roles.map .ofRole
  | .slot => s.slots.map .nat
  | .log => s.logs.map .ofLog
  | .ballot => s.progress.map fun p => .int p.ballot

namespace Tla

/-- The value for a column. -/
def Values.get (vs : Values) : Column → Value
  | .role => vs.role
  | .slot => vs.slot
  | .log => vs.log
  | .ballot => vs.ballot

theorem Values.get_mem_named (vs : Values) (names : VariableNames) (c : Column) :
    (names.name c, vs.get c) ∈ vs.named names := by
  cases c <;> simp [VariableNames.name, get, named]

@[simp] theorem Values.get_ofSnapshot (s : Snapshot) (c : Column) :
    (ofSnapshot s).get c = .function (s.column c) := by
  cases c <;> rfl

/-- The value of a column before the first event. -/
def Value.initial : Column → Value
  | .role => .ofRole .follower
  | .slot => .nat 0
  | .log => .ofLog []
  | .ballot => .int 0

end Tla

namespace Snapshot

@[simp] theorem column_initial (size : ℕ) (c : Column) :
    (initial size).column c = List.replicate size (Value.initial c) := by
  cases c <;> simp [column, initial, Value.initial, Progress.start]

variable {s before : Snapshot}

theorem length_column (h : s.wellFormed = true) (c : Column) : (s.column c).length = s.size := by
  obtain ⟨hslots, hlogs, hroles, hprogress⟩ := s.wellFormed_iff.1 h
  cases c <;> simp [column, *]

theorem getElem?_column_of_sameAt {k : ℕ} (h : s.SameAt before k) (c : Column) :
    (s.column c)[k]? = (before.column c)[k]? := by
  cases c <;> simp [column, h.role, h.slot, h.log, h.progress]

/-- At a server of the cluster, a column has the value that is given for the server. -/
theorem getElem?_column {k : ℕ} (h : s.wellFormed = true) (hk : k < s.size) (c : Column) :
    (s.column c)[k]? = some ((Values.ofServer s k).get c) := by
  obtain ⟨hslots, hlogs, hroles, hprogress⟩ := s.wellFormed_iff.1 h
  cases c with
  | role => simp [column, Values.get, Values.ofServer, roleOf, hroles, hk]
  | slot => simp [column, Values.get, Values.ofServer, slotOf, hslots, hk]
  | log => simp [column, Values.get, Values.ofServer, logOf, hlogs, hk]
  | ballot => simp [column, Values.get, Values.ofServer, progressOf, hprogress, hk]

/-- **One step.**  A column changes at the acting server only. -/
theorem Follows.column_eq_set {size actor : ℕ} (h : s.Follows before size actor) (c : Column) :
    s.column c = (before.column c).set actor ((Values.ofServer s actor).get c) := by
  -- the acting server has an entry in the column before
  have hlt : actor < (before.column c).length := by
    rw [length_column h.wellFormed.2, h.sizes.2]
    exact h.lt
  apply List.ext_getElem?
  intro k
  rw [List.getElem?_set]
  by_cases hk : actor = k
  · subst hk
    rw [if_pos rfl, if_pos hlt]
    exact getElem?_column h.wellFormed.1 (h.sizes.1.symm ▸ h.lt) c
  · rw [if_neg hk]
    exact getElem?_column_of_sameAt (h.same k (Ne.symm hk)) c

end Snapshot

end ReplicaTrace
