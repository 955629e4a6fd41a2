import ReplicaTrace.Proofs.Merge

/-!
# The order of the stream

An event is told apart from all others by its place: its file's place among the files, and its own
place in the file.  For files that are in the order of time, the stream is in the order of time,
then of the files, then of the places in the file, which is what stable sorting makes of the files
one after the other.

* `Placed` : an event with its place.
* `merge_map_inTimeOrder` : files that are put into the order of time and merged.
* `merge_eq_inTimeOrder_flatten` : files that are in the order of time as they are.
-/

namespace ReplicaTrace

/-- An event with its place. -/
structure Placed where
  /-- The event. -/
  event : Event
  /-- The place of the file among the files. -/
  source : ℕ
  /-- The place of the event in its file. -/
  position : ℕ
deriving DecidableEq

namespace Placed

/-- The place of `a` is before the place of `b`. -/
def PlaceLT (a b : Placed) : Prop :=
  a.source < b.source ∨ a.source = b.source ∧ a.position < b.position

/-- By time, then by place. -/
def Before (a b : Placed) : Prop :=
  a.event.time < b.event.time ∨ a.event.time = b.event.time ∧ a.PlaceLT b

theorem PlaceLT.ne {a b : Placed} (h : a.PlaceLT b) : a ≠ b := by
  rintro rfl
  rcases h with h | ⟨-, h⟩ <;> exact lt_irrefl _ h

theorem Before.ne {a b : Placed} (h : a.Before b) : a ≠ b := by
  rcases h with h | ⟨-, h⟩
  · rintro rfl
    exact lt_irrefl _ h
  · exact h.ne

/-- All events of the files with their places, one file after the other. -/
def all (sources : List (List Event)) : List Placed :=
  (sources.mapIdx fun i s => s.mapIdx fun j e => ⟨e, i, j⟩).flatten

/-- Every event of every file is there, with its own place. -/
theorem mem_all {sources : List (List Event)} {p : Placed} :
    p ∈ all sources ↔ ∃ s, sources[p.source]? = some s ∧ s[p.position]? = some p.event := by
  simp only [all, List.mem_flatten, List.mem_mapIdx]
  constructor
  · rintro ⟨_, ⟨i, hi, rfl⟩, hp⟩
    obtain ⟨j, hj, rfl⟩ := List.mem_mapIdx.1 hp
    exact ⟨sources[i], List.getElem?_eq_getElem hi, List.getElem?_eq_getElem hj⟩
  · rintro ⟨s, hs, he⟩
    obtain ⟨hi, rfl⟩ := List.getElem?_eq_some_iff.1 hs
    obtain ⟨hj, he⟩ := List.getElem?_eq_some_iff.1 he
    exact ⟨_, ⟨p.source, hi, rfl⟩, List.mem_mapIdx.2 ⟨p.position, hj, by rw [he]⟩⟩

/-- The events of every file with their places. -/
def files (sources : List (List Event)) : List (List Placed) :=
  sources.mapIdx fun i s => s.mapIdx fun j e => ⟨e, i, j⟩

theorem flatten_files (sources : List (List Event)) : (files sources).flatten = all sources := rfl

theorem map_event_files (sources : List (List Event)) :
    (files sources).map (List.map event) = sources := by
  apply List.ext_getElem
  · simp [files]
  · intro i h₁ h₂
    apply List.ext_getElem <;> simp [files]

theorem map_event_all (sources : List (List Event)) :
    (all sources).map event = sources.flatten := by
  rw [← flatten_files, List.map_flatten, map_event_files]

/-- The places come in their order. -/
theorem pairwise_all (sources : List (List Event)) : (all sources).Pairwise PlaceLT := by
  rw [all, List.pairwise_flatten]
  constructor
  · intro l hl
    obtain ⟨i, hi, rfl⟩ := List.mem_mapIdx.1 hl
    refine List.pairwise_iff_getElem.2 fun j k hj hk hjk => ?_
    simp only [List.getElem_mapIdx]
    exact .inr ⟨rfl, hjk⟩
  · refine List.pairwise_iff_getElem.2 fun i j hi hj hij a ha b hb => ?_
    simp only [List.getElem_mapIdx] at ha hb
    obtain ⟨_, _, rfl⟩ := List.mem_mapIdx.1 ha
    obtain ⟨_, _, rfl⟩ := List.mem_mapIdx.1 hb
    exact .inl hij

/-- All events in the order of time. -/
def sorted (sources : List (List Event)) : List Placed :=
  (all sources).mergeSort fun a b => a.event.notLater b.event

theorem map_event_sorted (sources : List (List Event)) :
    (sorted sources).map event = inTimeOrder sources.flatten := by
  rw [sorted, List.map_mergeSort (s := Event.notLater) fun _ _ _ _ => rfl, map_event_all]
  rfl

/-- Events of the same millisecond come in the order of their places. -/
theorem pairwise_sorted (sources : List (List Event)) : (sorted sources).Pairwise Before := by
  have h : (sorted sources).Pairwise
      (StableLE (fun a b : Placed => a.event.notLater b.event) PlaceLT) :=
    pairwise_mergeSort_stable (fun a b c => Event.notLater_trans a.event b.event c.event)
      (fun a b => Event.notLater_total a.event b.event) (pairwise_all sources)
  refine h.imp fun {a b} hab => ?_
  obtain ⟨hle, hplace⟩ := hab
  simp only [Event.notLater, decide_eq_true_eq] at hle hplace
  rcases lt_or_eq_of_le hle with hlt | heq
  · exact .inl hlt
  · exact .inr ⟨heq, hplace heq.ge⟩

end Placed

/-- The descents are the neighbours that go back in time. -/
theorem descents_eq_countP (events : List Event) :
    descents events = ((events.map Event.time).zip (events.map Event.time).tail).countP
      fun p => p.2 < p.1 := by
  induction events with
  | nil => rfl
  | cons a es ih =>
    cases es with
    | nil => rfl
    | cons b es =>
      rw [descents, ih, Nat.add_comm]
      simp [List.countP_cons]

/-- Files that are put into the order of time and merged give all events in the order of time. -/
theorem merge_map_inTimeOrder (sources : List (List Event)) :
    merge (sources.map inTimeOrder) = inTimeOrder sources.flatten := by
  rw [merge_eq_mergeAll]
  exact mergeAll_map_mergeSort Event.notLater_trans Event.notLater_total sources

/-- **The stream is the stable sort of the files.**  If every file is in the order of time, the
stream is what stable sorting makes of the files one after the other: it holds every event of every
file once, by time, then by the file's place among the files, then by the place in the file. -/
theorem merge_eq_inTimeOrder_flatten {sources : List (List Event)}
    (h : ∀ s ∈ sources, s.Pairwise fun a b => a.time ≤ b.time) :
    merge sources = inTimeOrder sources.flatten ∧
      ∃ stream : List Placed, merge sources = stream.map Placed.event ∧
        stream.Pairwise Placed.Before ∧ stream.Nodup ∧
        ∀ p, p ∈ stream ↔ ∃ s, sources[p.source]? = some s ∧ s[p.position]? = some p.event := by
  -- putting files in order into the order of time changes nothing
  have hsorted : sources.map inTimeOrder = sources := by
    calc sources.map inTimeOrder
        = sources.map id := List.map_congr_left fun s hs => inTimeOrder_eq_self (h s hs)
      _ = sources := List.map_id sources
  have hmerge : merge sources = inTimeOrder sources.flatten := by
    rw [← merge_map_inTimeOrder, hsorted]
  have hpairwise := Placed.pairwise_sorted sources
  refine ⟨hmerge, Placed.sorted sources, ?_, hpairwise, hpairwise.imp Placed.Before.ne, fun p => ?_⟩
  · rw [hmerge, Placed.map_event_sorted]
  · exact (List.mergeSort_perm _ _).mem_iff.trans Placed.mem_all

/-- An event in a few words. -/
def Event.brief (rank line : ℕ) (time : ℤ) (id : String) (action : Action) (slot : ℕ)
    (ballot : ℤ) : Event :=
  ⟨time, ⟨rank, "replica.log"⟩, line, "", action, ⟨id⟩, slot, ballot⟩

/-- Files with events of the same millisecond, in one file and in two, and an empty file. -/
def collidingFiles : List (List Event) :=
  [[.brief 0 1 5 "0" .becomeLeader 0 1, .brief 0 2 5 "0" .p2a 1 1, .brief 0 3 9 "0" .p3 1 1], [],
    [.brief 2 1 4 "1" .p1b 0 1, .brief 2 2 5 "1" .p2b 1 1]]

theorem merge_collidingFiles :
    (∀ s ∈ collidingFiles, s.Pairwise fun a b => a.time ≤ b.time) ∧
      merge collidingFiles = inTimeOrder collidingFiles.flatten ∧
      ∃ stream : List Placed, merge collidingFiles = stream.map Placed.event ∧
        stream.Pairwise Placed.Before ∧ stream.Nodup ∧
        ∀ p, p ∈ stream ↔
          ∃ s, collidingFiles[p.source]? = some s ∧ s[p.position]? = some p.event :=
  have h : ∀ s ∈ collidingFiles, s.Pairwise fun a b => a.time ≤ b.time := by decide
  ⟨h, merge_eq_inTimeOrder_flatten h⟩

end ReplicaTrace
