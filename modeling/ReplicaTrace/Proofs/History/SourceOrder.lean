import ReplicaTrace.Proofs.History.Violations

/-!
# The order of the files

Events of the same millisecond come into the stream in the order of their files, so that the stream
is another one when the files are given in another order.  What is said about a server is not, as
long as no server has events in two files: the files may be out of the order of time, but merging
never changes the order within one of them, and the history shows every server as its own events
say.

* `ownEvents_merge` : the events of a server in the stream are those of its file.
* `Replay.findings_ofEvents` : the violations of a server are those of its own events.
* `exists_run_merge_of_perm` : the files in two orders.
-/

namespace ReplicaTrace

/-- No server has events in two of the files. -/
def Apart (sources : List (List Event)) : Prop :=
  sources.Pairwise fun s t => ∀ e ∈ s, ∀ f ∈ t, e.server ≠ f.server

instance (sources : List (List Event)) : Decidable (Apart sources) :=
  inferInstanceAs (Decidable (sources.Pairwise _))

variable {sources sources' : List (List Event)} {id : ServerId}

theorem Apart.of_perm (h : Apart sources) (hperm : sources.Perm sources') : Apart sources' :=
  (hperm.pairwise_iff fun hst f hf e he => (hst e he f hf).symm).1 h

theorem ownEvents_eq_nil_iff {events : List Event} :
    ownEvents id events = [] ↔ ∀ e ∈ events, e.server ≠ id := by
  simp [ownEvents]

/-! ### The events of one server -/

/-- **Merging keeps the order of every file.**  If no server has events in two files, the events of
a server in the stream are those of its file, in the order of that file. -/
theorem ownEvents_merge (h : Apart sources) :
    ownEvents id (merge sources) = (sources.map (ownEvents id)).flatten := by
  have hapart : sources.Pairwise fun s t => ∀ e ∈ s, ∀ f ∈ t,
      decide (e.server = id) = true → decide (f.server = id) = false := by
    refine h.imp fun {s t} hst e he f hf hid => ?_
    have hne := hst e he f hf
    simp only [decide_eq_true_eq, decide_eq_false_iff_not] at hid ⊢
    exact hid ▸ hne.symm
  rw [merge_eq_mergeAll, ownEvents, filter_mergeAll hapart, List.filter_flatten]
  rfl

/-- At most one file tells of a server, whatever the order of the files. -/
theorem flatten_map_ownEvents_of_perm (h : Apart sources) (hperm : sources.Perm sources') :
    (sources.map (ownEvents id)).flatten = (sources'.map (ownEvents id)).flatten := by
  induction hperm with
  | nil => rfl
  | cons s _ ih =>
    rw [List.map_cons, List.flatten_cons, List.map_cons, List.flatten_cons,
      ih (List.pairwise_cons.1 h).2]
  | swap s t ss =>
    have hts : ∀ e ∈ t, ∀ f ∈ s, e.server ≠ f.server :=
      (List.pairwise_cons.1 h).1 s List.mem_cons_self
    have hone : ownEvents id s = [] ∨ ownEvents id t = [] := by
      by_contra hboth
      simp only [not_or, ownEvents_eq_nil_iff, not_forall, not_not] at hboth
      obtain ⟨⟨f, hf, hfid⟩, e, he, heid⟩ := hboth
      exact hts e he f hf (heid.trans hfid.symm)
    rcases hone with hnil | hnil <;> simp [hnil]
  | trans hperm _ ih₁ ih₂ => exact (ih₁ h).trans (ih₂ (h.of_perm hperm))

/-- The events of a server in the stream do not depend on the order of the files. -/
theorem ownEvents_merge_of_perm (h : Apart sources) (hperm : sources.Perm sources') :
    ownEvents id (merge sources) = ownEvents id (merge sources') := by
  rw [ownEvents_merge h, ownEvents_merge (h.of_perm hperm),
    flatten_map_ownEvents_of_perm h hperm]

/-! ### The violations of one server -/

/-- The violation without its place in the history. -/
def Violation.unplaced (v : Violation) : Violation :=
  { v with index := 0 }

/-- The violations of a server in their order, without their places in the history. -/
def Replay.findings (p : Replay) (id : ServerId) : List Violation :=
  (p.violations.toList.filter fun v => decide (v.server = id)).map Violation.unplaced

variable {r : Registry} {events : List Event}

@[simp] theorem ownEvents_ownEvents (events : List Event) :
    ownEvents id (ownEvents id events) = ownEvents id events := by
  simp [ownEvents]

theorem server_of_mem_violationsAt {past : List Event} {e : Event} {v : Violation}
    (h : v ∈ violationsAt r past e) : v.server = e.server :=
  (mem_violationsAt.1 h).2.2.1

/-- What an event violates is a matter of its server's own events. -/
theorem map_unplaced_violationsAt (past : List Event) (e : Event) :
    (violationsAt r past e).map Violation.unplaced =
      (violationsAt r (ownEvents e.server past) e).map Violation.unplaced := by
  unfold violationsAt
  cases r.index? e.server with
  | none => rfl
  | some actor => simp [Violation.unplaced]

/-- **The violations of a server are those of its own events**, whatever the other servers do in
between. -/
theorem Replay.findings_ofEvents :
    (ofEvents r events).findings id = (ofEvents r (ownEvents id events)).findings id := by
  induction events using List.reverseRecOn with
  | nil => rfl
  | append_singleton past e ih =>
    simp only [findings, toList_violations_ofEvents] at ih ⊢
    rw [withPast_concat, List.flatMap_append, List.filter_append, List.map_append, ih]
    by_cases hid : e.server = id
    · -- an event of the server brings the same violations in both histories
      have hkeep : ∀ own, (violationsAt r own e).filter (fun v => decide (v.server = id)) =
          violationsAt r own e := fun own =>
        List.filter_eq_self.2 fun v hv => by simpa [hid] using server_of_mem_violationsAt hv
      rw [← hid, ownEvents_concat_self, hid, withPast_concat, List.flatMap_append,
        List.filter_append, List.map_append]
      congr 1
      simp only [List.flatMap_cons, List.flatMap_nil, List.append_nil, hkeep]
      rw [map_unplaced_violationsAt past e, hid]
    · -- an event of another server brings none of this one
      have hdrop : (violationsAt r past e).filter (fun v => decide (v.server = id)) = [] := by
        refine List.filter_eq_nil_iff.2 fun v hv => ?_
        simpa [server_of_mem_violationsAt hv] using hid
      rw [ownEvents_concat_of_ne e past hid]
      simp [hdrop]

/-! ### The whole history -/

theorem Snapshot.sameAt_ofEvents_of_ownEvents {events' : List Event}
    (h : ∀ id, ownEvents id events = ownEvents id events') (k : ℕ) :
    (ofEvents r events).SameAt (ofEvents r events') k := by
  constructor <;> simp [ofEvents, h]

theorem knows_of_mem_merge (h : ∀ s ∈ sources, ∀ e ∈ s, r.knows e = true) :
    ∀ e ∈ merge sources, r.knows e = true := by
  intro e he
  rw [merge_eq_mergeAll, (mergeAll_perm sources).mem_iff] at he
  obtain ⟨s, hs, hes⟩ := List.mem_flatten.1 he
  exact h s hs e hes

/-- **The order of the files does not change what is said about the servers.**  If the registry
knows the servers of all events and no server has events in two files, then the files in two orders
both have a history; in the end every server has the same role, current slot, log and last report in
both; the violations of every server are the same, in the same order, their places in the history
apart; and one history is consistent exactly if the other one is. -/
theorem exists_run_merge_of_perm (hknown : ∀ s ∈ sources, ∀ e ∈ s, r.knows e = true)
    (h : Apart sources) (hperm : sources.Perm sources') :
    ∃ p p', Replay.run r (merge sources) = .ok p ∧ Replay.run r (merge sources') = .ok p' ∧
      (∀ k, p.current.SameAt p'.current k) ∧ (∀ id, p.findings id = p'.findings id) ∧
      p.consistent = p'.consistent := by
  have hknown' : ∀ s ∈ sources', ∀ e ∈ s, r.knows e = true :=
    fun s hs => hknown s (hperm.mem_iff.2 hs)
  have hown : ∀ id, ownEvents id (merge sources) = ownEvents id (merge sources') :=
    fun id => ownEvents_merge_of_perm h hperm
  refine ⟨.ofEvents r (merge sources), .ofEvents r (merge sources'),
    Replay.run_eq_ofEvents (knows_of_mem_merge hknown),
    Replay.run_eq_ofEvents (knows_of_mem_merge hknown'),
    Snapshot.sameAt_ofEvents_of_ownEvents hown, fun id => ?_, ?_⟩
  · rw [Replay.findings_ofEvents, hown, ← Replay.findings_ofEvents]
  · rw [Bool.eq_iff_iff, Replay.consistent_ofEvents_iff (knows_of_mem_merge hknown),
      Replay.consistent_ofEvents_iff (knows_of_mem_merge hknown')]
    simp only [hown]

/-- Two files that share a millisecond.  The clock of the first is set back while its server falls
in slot, and the server of the second falls in ballot. -/
def crossingFiles : List (List Event) :=
  [[.brief 0 1 5 "0" .becomeLeader 3 1, .brief 0 2 4 "0" .p2a 2 1, .brief 0 3 5 "0" .p3 2 1],
    [.brief 1 1 5 "1" .p1b 2 2, .brief 1 2 5 "1" .p2b 2 1]]

theorem exists_run_merge_crossingFiles :
    (∀ s ∈ crossingFiles, ∀ e ∈ s, twoServers.knows e = true) ∧ Apart crossingFiles ∧
      crossingFiles.Perm crossingFiles.reverse ∧
      ∃ p p', Replay.run twoServers (merge crossingFiles) = .ok p ∧
        Replay.run twoServers (merge crossingFiles.reverse) = .ok p' ∧
        (∀ k, p.current.SameAt p'.current k) ∧ (∀ id, p.findings id = p'.findings id) ∧
        p.consistent = p'.consistent :=
  have hknown : ∀ s ∈ crossingFiles, ∀ e ∈ s, twoServers.knows e = true := by decide
  have hapart : Apart crossingFiles := by decide
  have hperm : crossingFiles.Perm crossingFiles.reverse := crossingFiles.reverse_perm.symm
  ⟨hknown, hapart, hperm, exists_run_merge_of_perm hknown hapart hperm⟩

end ReplicaTrace
