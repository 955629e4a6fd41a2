import Mathlib.Data.List.Chain
import ReplicaTrace.Proofs.History.Violations

/-!
# Histories that only go up

Only what a server reports is compared with what it reported before; its current slot and its log
are changed by fewer events and are never compared with anything.  Without a violation they are in
order all the same, because each of them holds reports of the server, the current slot the one of
the newest record.

* `slotAfter_eq_newest` : the current slot and the newest record.
* `Settled`, `Steady.settled` : the records of a server that never goes back.
* `Snapshot.Climbs`, `Snapshot.Ordered` : what this means for snapshots.
* `exists_run_climbs` : the history of a replay without a violation.
-/

namespace ReplicaTrace

/-! ### The records of one server -/

/-- The slot of the newest record of a log, `0` for an empty log. -/
def newestSlot (log : List Entry) : ℕ :=
  (log.getLast?.map Entry.slot).getD 0

@[simp] theorem newestSlot_concat (log : List Entry) (x : Entry) :
    newestSlot (log ++ [x]) = x.slot := by
  simp [newestSlot]

/-- The current slot is the slot of the newest record, whether or not the server goes back. -/
theorem slotAfter_eq_newest (own : List Event) : slotAfter own = newestSlot (logAfter own) := by
  induction own using List.reverseRecOn with
  | nil => rfl
  | append_singleton past e ih =>
    rw [slotAfter_concat, logAfter_concat]
    split
    · rw [newestSlot_concat, recordOf]
    · exact ih

/-- The records of a server are in order, and none of them is above the server's last report. -/
structure Settled (own : List Event) : Prop where
  /-- The slots never decrease along the log. -/
  slots : ((logAfter own).map Entry.slot).Pairwise (· ≤ ·)
  /-- The ballots never decrease along the log. -/
  ballots : ((logAfter own).map Entry.ballot).Pairwise (· ≤ ·)
  /-- The last report is nowhere below a record. -/
  le_last : ∀ x ∈ logAfter own, x.slot ≤ (lastReport own).slot ∧ x.ballot ≤ (lastReport own).ballot

variable {own : List Event} {e : Event}

theorem pairwise_map_le_concat {α β : Type} [LE β] {f : α → β} {l : List α} {a : α}
    (h : (l.map f).Pairwise (· ≤ ·)) (ha : ∀ x ∈ l, f x ≤ f a) :
    ((l ++ [a]).map f).Pairwise (· ≤ ·) := by
  rw [List.map_append]
  refine List.pairwise_append.2 ⟨h, List.pairwise_singleton .., fun y hy z hz => ?_⟩
  obtain ⟨x, hx, rfl⟩ := List.mem_map.1 hy
  rw [List.mem_singleton.1 hz]
  exact ha x hx

/-- **One more event** at the last report or above keeps the records in order. -/
theorem Settled.concat (h : Settled own) (hslot : (lastReport own).slot ≤ e.slot)
    (hballot : (lastReport own).ballot ≤ e.ballot) : Settled (own ++ [e]) := by
  have hbelow : ∀ x ∈ logAfter own, x.slot ≤ e.slot ∧ x.ballot ≤ e.ballot := fun x hx =>
    ⟨(h.le_last x hx).1.trans hslot, (h.le_last x hx).2.trans hballot⟩
  have hlast : lastReport (own ++ [e]) = ⟨e.slot, e.ballot⟩ := lastReport_concat own e
  by_cases hmoves : e.action.advances = true
  · -- the event leaves a record with its own slot and ballot
    have hlog : logAfter (own ++ [e]) = logAfter own ++ [recordOf own e] := by
      rw [logAfter_concat, if_pos hmoves]
    constructor
    · rw [hlog]
      exact pairwise_map_le_concat h.slots fun x hx => (hbelow x hx).1
    · rw [hlog]
      exact pairwise_map_le_concat h.ballots fun x hx => (hbelow x hx).2
    · intro x hx
      rw [hlog] at hx
      rw [hlast]
      rcases List.mem_append.1 hx with hx | hx
      · exact hbelow x hx
      · rw [List.mem_singleton.1 hx]
        exact ⟨le_rfl, le_rfl⟩
  · have hlog : logAfter (own ++ [e]) = logAfter own := by
      rw [logAfter_concat, if_neg hmoves]
    exact ⟨hlog ▸ h.slots, hlog ▸ h.ballots, by rw [hlog, hlast]; exact hbelow⟩

/-- **The records of a server that never goes back** are in order. -/
theorem Steady.settled (h : Steady own) : Settled own := by
  induction own using List.reverseRecOn with
  | nil => exact ⟨.nil, .nil, fun x hx => absurd hx List.not_mem_nil⟩
  | append_singleton past e ih =>
    obtain ⟨hpast, hslot, hballot⟩ := (steady_concat_iff past e).1 h
    exact (ih hpast).concat hslot hballot

theorem Settled.slotAfter_le (h : Settled own) : slotAfter own ≤ (lastReport own).slot := by
  rw [slotAfter_eq_newest, newestSlot]
  cases hlast : (logAfter own).getLast? with
  | none => exact Nat.zero_le _
  | some x => exact (h.le_last x (List.mem_of_getLast? hlast)).1

/-- A server that never goes back did not do so in its first events either. -/
theorem Steady.of_append {more : List Event} (h : Steady (own ++ more)) : Steady own := by
  have hsub : own.Sublist (own ++ more) := List.sublist_append_left own more
  exact ⟨h.slots.sublist ((hsub.map _).cons_cons 0), h.ballots.sublist ((hsub.map _).cons_cons 0)⟩

/-! ### Snapshots -/

namespace Snapshot

/-- From the first snapshot to the second nothing of the server with index `k` goes back. -/
structure Climbs (s s' : Snapshot) (k : ℕ) : Prop where
  /-- The slot that the server reported last. -/
  slot : (s.progressOf k).slot ≤ (s'.progressOf k).slot
  /-- The ballot that the server reported last. -/
  ballot : (s.progressOf k).ballot ≤ (s'.progressOf k).ballot
  /-- The current slot. -/
  current : s.slotOf k ≤ s'.slotOf k

/-- All that the snapshot holds of the server with index `k` fits together. -/
structure Ordered (s : Snapshot) (k : ℕ) : Prop where
  /-- The slots never decrease along the log. -/
  slots : ((s.logOf k).map Entry.slot).Pairwise (· ≤ ·)
  /-- The ballots never decrease along the log. -/
  ballots : ((s.logOf k).map Entry.ballot).Pairwise (· ≤ ·)
  /-- The current slot is not above the slot reported last. -/
  current_le : s.slotOf k ≤ (s.progressOf k).slot
  /-- The current slot is the slot of the newest record. -/
  current_eq : s.slotOf k = newestSlot (s.logOf k)

variable {r : Registry} {past : List Event} {id : ServerId} {k : ℕ}

theorem ordered_ofEvents (hk : r.index? id = some k) (h : Steady (ownEvents id past)) :
    (ofEvents r past).Ordered k := by
  have hsettled := h.settled
  constructor
  · rw [logOf_ofEvents hk]
    exact hsettled.slots
  · rw [logOf_ofEvents hk]
    exact hsettled.ballots
  · rw [slotOf_ofEvents hk, progressOf_ofEvents hk]
    exact hsettled.slotAfter_le
  · rw [slotOf_ofEvents hk, logOf_ofEvents hk]
    exact slotAfter_eq_newest _

/-- **One event.**  The next snapshot is nowhere below the one before, at no server. -/
theorem climbs_ofEvents_concat (hk : r.index? id = some k)
    (h : Steady (ownEvents id (past ++ [e]))) :
    (ofEvents r past).Climbs (ofEvents r (past ++ [e])) k := by
  by_cases hserver : e.server = id
  · rw [← hserver, ownEvents_concat_self, steady_concat_iff] at h
    obtain ⟨hpast, hslot, hballot⟩ := h
    rw [← hserver] at hk
    constructor
    · rwa [progressOf_ofEvents hk, progressOf_ofEvents hk, ownEvents_concat_self, lastReport_concat]
    · rwa [progressOf_ofEvents hk, progressOf_ofEvents hk, ownEvents_concat_self, lastReport_concat]
    · rw [slotOf_ofEvents hk, slotOf_ofEvents hk, ownEvents_concat_self, slotAfter_concat]
      split
      · exact hpast.settled.slotAfter_le.trans hslot
      · exact le_rfl
  · -- the event of another server changes nothing here
    have hsame : ownEvents id (past ++ [e]) = ownEvents id past :=
      ownEvents_concat_of_ne e past hserver
    constructor
    · rw [progressOf_ofEvents hk, progressOf_ofEvents hk, hsame]
    · rw [progressOf_ofEvents hk, progressOf_ofEvents hk, hsame]
    · rw [slotOf_ofEvents hk, slotOf_ofEvents hk, hsame]

end Snapshot

/-! ### The whole history -/

variable {r : Registry} {events : List Event}

namespace Replay

theorem length_initial_snapshots_ofEvents :
    (Snapshot.initial r.size :: (ofEvents r events).snapshots).length = events.length + 1 := by
  rw [List.length_cons, length_snapshots_ofEvents]

/-- Every snapshot is the one after the first so many events. -/
theorem getElem_initial_snapshots_ofEvents {n : ℕ}
    (hn : n < (Snapshot.initial r.size :: (ofEvents r events).snapshots).length) :
    (Snapshot.initial r.size :: (ofEvents r events).snapshots)[n] = .ofEvents r (events.take n) := by
  have hle : n ≤ events.length := by
    rw [length_initial_snapshots_ofEvents] at hn
    exact Nat.le_of_lt_succ hn
  exact Option.some.inj ((List.getElem?_eq_getElem hn).symm.trans
    (getElem?_initial_snapshots_ofEvents hle))

/-- In a history without a violation, no prefix of the events makes a server go back. -/
theorem steady_of_prefix {past more : List Event} (h : ∀ e ∈ past ++ more, r.knows e = true)
    (hconsistent : (ofEvents r (past ++ more)).consistent = true) {id : ServerId}
    (hid : id ∈ r.ids) : Steady (ownEvents id past) := by
  have hsteady := (consistent_ofEvents_iff h).1 hconsistent id hid
  rw [ownEvents, List.filter_append] at hsteady
  exact hsteady.of_append

end Replay

/-- **A history without a violation only goes up.**  If the registry knows the servers of all
events and the replay notes no violation, every server starts at slot and ballot `0`; from one
snapshot to the next its last report and its current slot never go back; and in every snapshot,
which has an entry for each server in every column, its log is in order and its current slot is the
one of the newest record, not above the last report. -/
theorem exists_run_climbs (h : ∀ e ∈ events, r.knows e = true) :
    ∃ p, Replay.run r events = .ok p ∧ p.snapshots.length = events.length ∧
      (p.consistent = true → ∀ k < r.size,
        (Snapshot.initial r.size).progressOf k = ⟨0, 0⟩ ∧
        (Snapshot.initial r.size :: p.snapshots).IsChain (fun s s' => s.Climbs s' k) ∧
        ∀ s ∈ Snapshot.initial r.size :: p.snapshots,
          s.size = r.size ∧ s.wellFormed = true ∧ s.Ordered k) := by
  refine ⟨.ofEvents r events, Replay.run_eq_ofEvents h, Replay.length_snapshots_ofEvents,
    fun hconsistent k hlt => ?_⟩
  have hk : r.index? r.ids[k] = some k :=
    Registry.index?_eq_some_iff.2 (List.getElem?_eq_getElem hlt)
  have hsteady : ∀ n, Steady (ownEvents r.ids[k] (events.take n)) := fun n => by
    rw [← List.take_append_drop n events] at h hconsistent
    exact Replay.steady_of_prefix h hconsistent (List.getElem_mem hlt)
  refine ⟨?_, ?_, fun s hs => ?_⟩
  · rw [← Snapshot.ofEvents_nil, Snapshot.progressOf_ofEvents hk]
    rfl
  · refine List.isChain_iff_getElem.2 fun n hn => ?_
    have hlt : n < events.length := by
      rw [Replay.length_initial_snapshots_ofEvents] at hn
      exact Nat.lt_of_succ_lt_succ hn
    have htake : events.take (n + 1) = events.take n ++ [events[n]] :=
      (List.take_append_getElem hlt).symm
    rw [Replay.getElem_initial_snapshots_ofEvents, Replay.getElem_initial_snapshots_ofEvents, htake]
    exact Snapshot.climbs_ofEvents_concat hk (htake ▸ hsteady (n + 1))
  · obtain ⟨n, hn, rfl⟩ := List.mem_iff_getElem.1 hs
    rw [Replay.getElem_initial_snapshots_ofEvents hn]
    exact ⟨rfl, Snapshot.wellFormed_ofEvents r _, Snapshot.ordered_ofEvents hk (hsteady n)⟩

/-- Server `0` leads, accepts and falls back to follow at its own slot, while server `1` reports
more than it records. -/
def risingEvents : List Event :=
  [.brief 0 1 1 "0" .becomeLeader 0 3, .brief 1 1 2 "1" .p1b 0 2, .brief 0 2 3 "0" .p2a 4 3,
    .brief 1 2 4 "1" (.other "Heartbeat") 3 3, .brief 1 3 5 "1" .p2b 4 3,
    .brief 0 3 6 "0" .becomeFollower 4 5, .brief 0 4 7 "0" .p3 6 5]

theorem exists_run_climbs_rising :
    (∀ e ∈ risingEvents, twoServers.knows e = true) ∧
      ∃ p, Replay.run twoServers risingEvents = .ok p ∧
        p.snapshots.length = risingEvents.length ∧ p.consistent = true ∧
        ∀ k < twoServers.size,
          (Snapshot.initial twoServers.size).progressOf k = ⟨0, 0⟩ ∧
          (Snapshot.initial twoServers.size :: p.snapshots).IsChain (fun s s' => s.Climbs s' k) ∧
          ∀ s ∈ Snapshot.initial twoServers.size :: p.snapshots,
            s.size = twoServers.size ∧ s.wellFormed = true ∧ s.Ordered k := by
  have h : ∀ e ∈ risingEvents, twoServers.knows e = true := by decide
  obtain ⟨p, hrun, hlength, hclimbs⟩ := exists_run_climbs h
  have hconsistent : p.consistent = true := by
    obtain rfl := Except.ok.inj ((Replay.run_eq_ofEvents h).symm.trans hrun)
    decide
  exact ⟨h, p, hrun, hlength, hconsistent, hclimbs hconsistent⟩

end ReplicaTrace
