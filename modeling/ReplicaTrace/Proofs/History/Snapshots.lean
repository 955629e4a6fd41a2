import ReplicaTrace.Proofs.History.ClosedForm
import ReplicaTrace.Proofs.Stream

/-!
# What the snapshots hold

The snapshot after an event shows every server as its own events up to then say, whatever the other
servers did in between; a server that does not act is as it was in the snapshot before.

* `Snapshot.Shows` : a snapshot shows a server as the server's own events say.
* `Snapshot.SameAt` : two snapshots do not differ at a server.
* `Snapshot.Follows` : one snapshot comes right after another one.
* `exists_run_snapshots` : the snapshots of a replay.
-/

namespace ReplicaTrace

namespace Snapshot

/-- The server with index `k` is as the events `own` say. -/
structure Shows (s : Snapshot) (k : ℕ) (own : List Event) : Prop where
  /-- Slot and ballot are those of the last event. -/
  progress : s.progress[k]? = some (lastReport own)
  /-- The role is the one of the last change of role. -/
  role : s.roles[k]? = some (roleAfter own)
  /-- The current slot is that of the last event that moves the slot. -/
  slot : s.slots[k]? = some (slotAfter own)
  /-- The log has one record for each event that moves the slot. -/
  log : s.logs[k]? = some (logAfter own)

/-- The snapshots do not differ at the server with index `k`. -/
structure SameAt (s s' : Snapshot) (k : ℕ) : Prop where
  /-- Slot and ballot are the same. -/
  progress : s.progress[k]? = s'.progress[k]?
  /-- The role is the same. -/
  role : s.roles[k]? = s'.roles[k]?
  /-- The current slot is the same. -/
  slot : s.slots[k]? = s'.slots[k]?
  /-- The log is the same. -/
  log : s.logs[k]? = s'.logs[k]?

/-- In a cluster of the given size, the snapshot `s` comes right after `before` when one server
acts. -/
structure Follows (s before : Snapshot) (size actor : ℕ) : Prop where
  /-- The snapshots are of that cluster. -/
  sizes : s.size = size ∧ before.size = size
  /-- Every column has one entry for each server. -/
  wellFormed : s.wellFormed = true ∧ before.wellFormed = true
  /-- The acting server is named. -/
  acts : s.actor = some actor
  /-- The acting server is one of the cluster. -/
  lt : actor < size
  /-- No other server changes. -/
  same : ∀ k, k ≠ actor → s.SameAt before k

variable {r : Registry} {past : List Event} {e : Event}

theorem shows_ofEvents {k : ℕ} {id : ServerId} (h : r.id? k = some id) :
    (ofEvents r past).Shows k (ownEvents id past) := by
  have hk : r.ids[k]? = some id := h
  constructor <;> simp [ofEvents, hk]

/-- Only the acting server changes. -/
theorem sameAt_ofEvents {k : ℕ} (h : r.index? e.server ≠ some k) :
    (ofEvents r (past ++ [e])).SameAt (ofEvents r past) k := by
  cases hk : r.ids[k]? with
  | none => constructor <;> simp [ofEvents, hk]
  | some id =>
    have hne : e.server ≠ id := by
      rintro rfl
      exact h (Registry.index?_eq_some_iff.2 hk)
    constructor <;> simp [ofEvents, hk, ownEvents_concat_of_ne e past hne]

theorem follows_ofEvents {actor : ℕ} (h : r.index? e.server = some actor) :
    (ofEvents r (past ++ [e])).Follows (ofEvents r past) r.size actor where
  sizes := ⟨rfl, rfl⟩
  wellFormed := ⟨wellFormed_ofEvents r _, wellFormed_ofEvents r _⟩
  acts := actor_ofEvents_concat.trans h
  lt := Registry.lt_size_of_index? h
  same := fun _ hk => sameAt_ofEvents fun hk' => hk (Option.some.inj (hk'.symm.trans h))

end Snapshot

/-- Each snapshot of the history follows the one before, the first one the initial snapshot. -/
def Grows (history : List Snapshot) (size : ℕ) : Prop :=
  ∀ (i : ℕ) (s : Snapshot), history[i]? = some s →
    ∃ before actor, (Snapshot.initial size :: history)[i]? = some before ∧
      s.Follows before size actor

variable {r : Registry} {events : List Event}

namespace Replay

theorem length_snapshots_ofEvents : (ofEvents r events).snapshots.length = events.length := by
  simp [snapshots, ofEvents]

/-- A snapshot is reported where an event is. -/
theorem exists_location_snapshots_ofEvents {i : ℕ} {s : Snapshot} {l : String}
    (hs : (ofEvents r events).snapshots[i]? = some s) (hl : s.location = some l) :
    ∃ e ∈ events, e.location = l := by
  rw [getElem?_snapshots_ofEvents] at hs
  split at hs
  · next hi =>
    have htake : events.take (i + 1) = events.take i ++ [events[i]] :=
      (List.take_append_getElem hi).symm
    rw [htake] at hs
    obtain rfl := Option.some.inj hs
    rw [Snapshot.location_ofEvents_concat] at hl
    exact ⟨_, List.getElem_mem hi, Option.some.inj hl⟩
  · cases hs

/-- The places of the snapshots are those of the events. -/
theorem forall_location_snapshots_ofEvents {P : String → Prop} :
    (∀ s ∈ (ofEvents r events).snapshots, ∀ l ∈ s.location, P l) ↔ ∀ e ∈ events, P e.location := by
  constructor
  · intro h e he
    obtain ⟨i, hi, rfl⟩ := List.mem_iff_getElem.1 he
    have hs : (ofEvents r events).snapshots[i]? =
        some (.ofEvents r (events.take i ++ [events[i]])) := by
      rw [getElem?_snapshots_ofEvents, if_pos hi, List.take_append_getElem]
    exact h _ (List.mem_of_getElem? hs) _ Snapshot.location_ofEvents_concat
  · intro h s hs l hl
    obtain ⟨i, hi⟩ := List.mem_iff_getElem?.1 hs
    obtain ⟨e, he, rfl⟩ := exists_location_snapshots_ofEvents hi hl
    exact h e he

/-- The snapshot after the first `i` events. -/
theorem getElem?_initial_snapshots_ofEvents {i : ℕ} (hi : i ≤ events.length) :
    (Snapshot.initial r.size :: (ofEvents r events).snapshots)[i]? =
      some (.ofEvents r (events.take i)) := by
  cases i with
  | zero => simp
  | succ i => rw [List.getElem?_cons_succ, getElem?_snapshots_ofEvents, if_pos (by omega)]

theorem grows_snapshots_ofEvents (h : ∀ e ∈ events, r.knows e = true) :
    Grows (ofEvents r events).snapshots r.size := by
  intro i s hs
  rw [getElem?_snapshots_ofEvents] at hs
  split at hs
  · next hi =>
    obtain ⟨actor, hactor⟩ := Registry.exists_index?_of_knows (h _ (List.getElem_mem hi))
    have htake : events.take (i + 1) = events.take i ++ [events[i]] :=
      (List.take_append_getElem hi).symm
    obtain rfl := Option.some.inj hs
    rw [htake]
    exact ⟨_, actor, getElem?_initial_snapshots_ofEvents hi.le, Snapshot.follows_ofEvents hactor⟩
  · cases hs

end Replay

/-- **What the snapshots hold.**  If the registry knows the servers of all events, there is one
snapshot for each event.  Every column of it has one entry for each server; it names the event's
action, server and place; it shows each server as the server's own events up to this one say; and at
all other servers than the event's it does not differ from the snapshot before. -/
theorem exists_run_snapshots (h : ∀ e ∈ events, r.knows e = true) :
    ∃ p, Replay.run r events = .ok p ∧ p.snapshots.length = events.length ∧
      ∀ (i : ℕ) (e : Event), events[i]? = some e →
        ∃ s before actor, p.snapshots[i]? = some s ∧
          (Snapshot.initial r.size :: p.snapshots)[i]? = some before ∧
          s.size = r.size ∧ s.wellFormed = true ∧
          s.action = e.action.label ∧ s.location = some e.location ∧
          r.index? e.server = some actor ∧ s.actor = some actor ∧
          (∀ (k : ℕ) (id : ServerId), r.id? k = some id →
            s.Shows k (ownEvents id (events.take (i + 1)))) ∧
          ∀ k, k ≠ actor → s.SameAt before k := by
  refine ⟨.ofEvents r events, Replay.run_eq_ofEvents h, Replay.length_snapshots_ofEvents,
    fun i e hi => ?_⟩
  obtain ⟨hlt, rfl⟩ := List.getElem?_eq_some_iff.1 hi
  obtain ⟨actor, hactor⟩ := Registry.exists_index?_of_knows (h _ (List.getElem_mem hlt))
  have htake : events.take (i + 1) = events.take i ++ [events[i]] :=
    (List.take_append_getElem hlt).symm
  have hfollows : (Snapshot.ofEvents r (events.take (i + 1))).Follows
      (Snapshot.ofEvents r (events.take i)) r.size actor := by
    rw [htake]
    exact Snapshot.follows_ofEvents hactor
  refine ⟨.ofEvents r (events.take (i + 1)), .ofEvents r (events.take i), actor, ?_,
    Replay.getElem?_initial_snapshots_ofEvents hlt.le, hfollows.sizes.1, hfollows.wellFormed.1,
    ?_, ?_, hactor, hfollows.acts, fun k id hk => Snapshot.shows_ofEvents hk, hfollows.same⟩
  · rw [Replay.getElem?_snapshots_ofEvents, if_pos hlt]
  · rw [htake, Snapshot.action_ofEvents_concat]
  · rw [htake, Snapshot.location_ofEvents_concat]

/-- A cluster of two servers. -/
def twoServers : Registry := ⟨[⟨"0"⟩, ⟨"1"⟩], by decide, by decide⟩

/-- Server `0` leads, falls back in slot and ballot and recovers, while server `1` starts with a
negative ballot. -/
def fallingEvents : List Event :=
  [.brief 0 1 1 "0" .becomeLeader 0 3, .brief 1 1 2 "1" .p1b 0 (-1), .brief 0 2 3 "0" .p2a 4 3,
    .brief 0 3 4 "0" (.other "Heartbeat") 2 2, .brief 1 2 5 "1" .p2b 2 3,
    .brief 0 4 6 "0" .becomeFollower 3 3, .brief 0 5 7 "0" .p3 3 3]

theorem exists_run_snapshots_falling :
    (∀ e ∈ fallingEvents, twoServers.knows e = true) ∧
      ∃ p, Replay.run twoServers fallingEvents = .ok p ∧
        p.snapshots.length = fallingEvents.length ∧
        ∀ (i : ℕ) (e : Event), fallingEvents[i]? = some e →
          ∃ s before actor, p.snapshots[i]? = some s ∧
            (Snapshot.initial twoServers.size :: p.snapshots)[i]? = some before ∧
            s.size = twoServers.size ∧ s.wellFormed = true ∧
            s.action = e.action.label ∧ s.location = some e.location ∧
            twoServers.index? e.server = some actor ∧ s.actor = some actor ∧
            (∀ (k : ℕ) (id : ServerId), twoServers.id? k = some id →
              s.Shows k (ownEvents id (fallingEvents.take (i + 1)))) ∧
            ∀ k, k ≠ actor → s.SameAt before k :=
  have h : ∀ e ∈ fallingEvents, twoServers.knows e = true := by decide
  ⟨h, exists_run_snapshots h⟩

end ReplicaTrace
