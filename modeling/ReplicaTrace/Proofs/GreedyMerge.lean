import Mathlib.Logic.Relation
import ReplicaTrace.Proofs.Stream

/-!
# Merging is greedy

A file need not be in the order of time to be merged.  Whatever the files are, the stream takes the
earliest of their heads, of several heads of the same millisecond that of the first file, and goes
on with what is left until all files are at their end.

* `HeadComesFirst`, `GreedyMerge` : one choice, and the stream that all choices give.
* `Merging.Valid.exists_greedyMerge_run` : serving the tickets makes these choices.
* `Merging.Valid.of_reaches` : the invariant holds in every state on the way.
* `Placed.stream` : the stream with the places of its events.
* `merge_greedy` : the stream is the greedy one, it holds every event of every file once and in the
  order of its file, and a ticket that is served finds a head.
-/

namespace ReplicaTrace

/-- The head `e` of a file, after which `rest` is left, comes first: it is the head of least time,
and of those the one of the first file. -/
structure HeadComesFirst (sources : List (List Event)) (rank : ℕ) (e : Event) (rest : List Event) :
    Prop where
  /-- The event is the head of the file. -/
  head : sources[rank]? = some (e :: rest)
  /-- No other head comes before it. -/
  least : ∀ (j : ℕ) (b : Event) (u : List Event), sources[j]? = some (b :: u) →
    e.time < b.time ∨ e.time = b.time ∧ rank ≤ j

/-- **The greedy merge**: the head that comes first is taken from its file, again and again, until
all files are at their end. -/
inductive GreedyMerge : List (List Event) → List Event → Prop
  /-- All files are at their end. -/
  | done {sources : List (List Event)} (h : ∀ s ∈ sources, s = []) : GreedyMerge sources []
  /-- A head is taken. -/
  | take {sources : List (List Event)} {rank : ℕ} {e : Event} {rest stream : List Event}
      (h : HeadComesFirst sources rank e rest)
      (hrest : GreedyMerge (sources.set rank rest) stream) : GreedyMerge sources (e :: stream)

variable {sources : List (List Event)}

/-- There is only one greedy merge, as every choice is determined. -/
theorem GreedyMerge.eq_mergeAll {stream : List Event} (h : GreedyMerge sources stream) :
    stream = mergeAll Event.notLater sources := by
  induction h with
  | done h => exact (mergeAll_eq_nil h).symm
  | @take sources rank e rest stream h _ ih =>
    rw [ih]
    refine (mergeAll_eq_cons h.head fun j b u hj => ?_).symm
    have hleast := h.least j b u hj
    simp only [Event.notLater, decide_eq_false_iff_not, decide_eq_true_eq, not_le]
    omega

namespace Merging

variable {m m' : Merging}

/-- One ticket after the other is served, from one state to another. -/
def Reaches (m m' : Merging) : Prop :=
  Relation.ReflTransGen (fun m m' => m.step = some m') m m'

/-- The invariant holds in every state on the way. -/
theorem Valid.of_reaches (hm : m.Valid) (h : m.Reaches m') : m'.Valid := by
  induction h with
  | refl => exact hm
  | tail _ hstep ih =>
    obtain ⟨_, _, _, _, _, _, _, hvalid⟩ := ih.step hstep
    exact hvalid

/-- **Serving the tickets is greedy.**  Each of them stands for the head that comes first. -/
theorem Valid.exists_greedyMerge_run (hm : m.Valid) :
    ∃ stream, m.run.toList = m.merged.toList ++ stream ∧ GreedyMerge m.unread stream := by
  induction m using run.induct with
  | case1 m h =>
    refine ⟨[], ?_, .done (hm.unread_eq_nil h)⟩
    rw [run_of_step_eq_none h, List.append_nil]
  | case2 m next h _ ih =>
    obtain ⟨rank, e, rest, hhead, hmin, hunread, hmerged, hnext⟩ := hm.step h
    obtain ⟨stream, hrun, hgreedy⟩ := ih hnext
    have hfirst : HeadComesFirst m.unread rank e rest := by
      refine ⟨hhead, fun j b u hj => ?_⟩
      obtain ⟨hbefore, hafter⟩ := hmin j b u hj
      rcases lt_trichotomy j rank with hlt | rfl | hgt
      · exact .inl (hbefore hlt)
      · -- a file has one head
        obtain ⟨rfl, -⟩ := List.cons.inj (Option.some.inj (hhead.symm.trans hj))
        exact .inr ⟨rfl, le_rfl⟩
      · have hle := hafter hgt
        omega
    refine ⟨e :: stream, ?_, .take hfirst (hunread ▸ hgreedy)⟩
    rw [run_of_step_eq_some h, hrun, hmerged, Array.toList_push, List.append_assoc,
      List.singleton_append]

end Merging

theorem greedyMerge_merge (sources : List (List Event)) : GreedyMerge sources (merge sources) := by
  obtain ⟨stream, hrun, hgreedy⟩ := (Merging.valid_start sources).exists_greedyMerge_run
  have hmerge : merge sources = stream := by
    rw [merge, hrun]
    rfl
  rwa [hmerge, ← Merging.unread_start sources]

/-! ### Every event once, in the order of its file -/

namespace Placed

theorem source_of_mem_files {i : ℕ} {file : List Placed} {p : Placed}
    (h : (files sources)[i]? = some file) (hp : p ∈ file) : p.source = i := by
  rw [files, List.getElem?_mapIdx] at h
  obtain ⟨s, -, rfl⟩ := Option.map_eq_some_iff.1 h
  obtain ⟨j, hj, rfl⟩ := List.mem_mapIdx.1 hp
  rfl

/-- The stream with the places of its events. -/
def stream (sources : List (List Event)) : List Placed :=
  mergeAll (fun a b => a.event.notLater b.event) (files sources)

theorem map_event_stream (sources : List (List Event)) :
    (stream sources).map event = merge sources := by
  have h : (stream sources).map event =
      mergeAll Event.notLater ((files sources).map (List.map event)) :=
    map_mergeAll event (fun _ _ => rfl) _
  rw [h, map_event_files, merge_eq_mergeAll]

theorem stream_perm_all (sources : List (List Event)) : (stream sources).Perm (all sources) :=
  mergeAll_perm _

/-- No event comes twice. -/
theorem nodup_stream (sources : List (List Event)) : (stream sources).Nodup :=
  (stream_perm_all sources).nodup_iff.2 ((pairwise_all sources).imp PlaceLT.ne)

/-- The events of a file keep their order. -/
theorem filter_stream (sources : List (List Event)) (i : ℕ) :
    ((stream sources).filter fun p => p.source = i) =
      (all sources).filter fun p => p.source = i := by
  rw [stream, ← flatten_files]
  refine filter_mergeAll (List.pairwise_iff_getElem.2 fun j k hj hk hjk a ha b hb hai => ?_)
  have hsource := source_of_mem_files (List.getElem?_eq_getElem hj) ha
  have hsource' := source_of_mem_files (List.getElem?_eq_getElem hk) hb
  simp only [decide_eq_true_eq, decide_eq_false_iff_not] at hai ⊢
  omega

theorem pairwise_stream (sources : List (List Event)) :
    (stream sources).Pairwise fun a b => a.source = b.source → a.position < b.position := by
  refine List.pairwise_iff_forall_sublist.2 fun {a b} hab hsource => ?_
  -- two events of one file stand in the stream as they stand in the file
  have hfile : ([a, b].filter fun p => p.source = b.source) = [a, b] := by simp [hsource]
  have hall : List.Sublist [a, b] (all sources) := by
    rw [← hfile]
    refine (hab.filter _).trans ?_
    rw [filter_stream]
    exact List.filter_sublist
  rcases List.pairwise_iff_forall_sublist.1 (pairwise_all sources) hall with h | ⟨-, h⟩
  · omega
  · exact h

end Placed

/-- **Merging is greedy on every input.**  The stream of any files, in the order of time or not, is
what taking the head that comes first, again and again, gives and nothing else.  It holds every
event of every file once, those of one file in their order, and in every state on the way the ticket
at the front finds a head, one of its own time. -/
theorem merge_greedy (sources : List (List Event)) :
    (∀ stream, GreedyMerge sources stream ↔ stream = merge sources) ∧
      (∃ stream : List Placed, merge sources = stream.map Placed.event ∧ stream.Nodup ∧
        (∀ p, p ∈ stream ↔ ∃ s, sources[p.source]? = some s ∧ s[p.position]? = some p.event) ∧
        stream.Pairwise fun a b => a.source = b.source → a.position < b.position) ∧
      ∀ m, (Merging.start sources).Reaches m → ∀ t queue, m.queue = t :: queue →
        ∃ e, m.heads[t.rank]? = some (some e) ∧ e.time = t.time := by
  refine ⟨fun stream => ⟨fun h => ?_, ?_⟩, ?_, fun m h t queue hq => ?_⟩
  · rw [h.eq_mergeAll, merge_eq_mergeAll]
  · rintro rfl
    exact greedyMerge_merge sources
  · refine ⟨Placed.stream sources, (Placed.map_event_stream sources).symm,
      Placed.nodup_stream sources, fun p => ?_, Placed.pairwise_stream sources⟩
    exact (Placed.stream_perm_all sources).mem_iff.trans Placed.mem_all
  · exact ((Merging.valid_start sources).of_reaches h).head_of_front hq

end ReplicaTrace
