import ReplicaTrace.Proofs.StableSort
import ReplicaTrace.Stream

/-!
# What merging with a queue gives

Merging several files with a queue of tickets gives the same stream as merging them two at a time,
whether the files are in the order of time or not.

* `Merging.Valid` : the invariant of the merge: the queue holds one ticket for every head.
* `Merging.Valid.step` : one step takes the first of the earliest heads and keeps the invariant.
* `merge_eq_mergeAll` : the stream, for files in any order.
-/

namespace ReplicaTrace

namespace Ticket

theorem join_perm (t : Ticket) (us : List Ticket) : (t.join us).Perm (t :: us) := by
  induction us with
  | nil => exact .refl _
  | cons u us ih =>
    simp only [join]
    split
    · exact .refl _
    · exact (ih.cons u).trans (.swap t u us)

theorem foldl_join_perm (ts queue : List Ticket) :
    (ts.foldl (fun queue t => t.join queue) queue).Perm (ts ++ queue) := by
  induction ts generalizing queue with
  | nil => exact .refl _
  | cons t ts ih =>
    calc (t :: ts).foldl (fun queue t => t.join queue) queue
        |>.Perm (ts ++ t.join queue) := ih _
      _ |>.Perm (ts ++ t :: queue) := (join_perm t queue).append_left ts
      _ |>.Perm (t :: ts ++ queue) := List.perm_middle

/-- A queue in order stays in order. -/
theorem pairwise_join (t : Ticket) {us : List Ticket}
    (h : us.Pairwise fun u v => u.notAfter v = true) :
    (t.join us).Pairwise fun u v => u.notAfter v = true := by
  induction us with
  | nil => simp [join]
  | cons u us ih =>
    obtain ⟨hu, hus⟩ := List.pairwise_cons.1 h
    simp only [join]
    split
    · next htu =>
      refine List.pairwise_cons.2 ⟨fun v hv => ?_, h⟩
      rcases List.mem_cons.1 hv with rfl | hv
      · exact htu
      · have huv := hu v hv
        rw [notAfter_iff] at htu huv ⊢
        omega
    · next htu =>
      refine List.pairwise_cons.2 ⟨fun v hv => ?_, ih hus⟩
      rcases List.mem_cons.1 ((join_perm t us).mem_iff.1 hv) with rfl | hv
      · rw [notAfter_iff] at htu ⊢
        omega
      · exact hu v hv

theorem pairwise_foldl_join (ts : List Ticket) {queue : List Ticket}
    (h : queue.Pairwise fun u v => u.notAfter v = true) :
    (ts.foldl (fun queue t => t.join queue) queue).Pairwise fun u v => u.notAfter v = true := by
  induction ts generalizing queue with
  | nil => exact h
  | cons t ts ih => exact ih (pairwise_join t h)

theorem mem_firsts {sources : List (List Event)} {t : Ticket} :
    t ∈ firsts sources ↔
      ∃ e s, sources[t.rank]? = some (e :: s) ∧ t = ⟨e.time, t.rank, 0⟩ := by
  simp only [firsts, List.mem_filterMap, id_eq, exists_eq_right, List.mem_mapIdx]
  constructor
  · rintro ⟨i, hi, h⟩
    obtain ⟨e, he, rfl⟩ := Option.map_eq_some_iff.1 h
    obtain ⟨s, hs⟩ := List.head?_eq_some_iff.1 he
    exact ⟨e, s, by rw [List.getElem?_eq_getElem hi, hs], rfl⟩
  · rintro ⟨e, s, hs, ht⟩
    obtain ⟨hi, hs⟩ := List.getElem?_eq_some_iff.1 hs
    exact ⟨t.rank, hi, by rw [hs, ht]; rfl⟩

/-- There is one ticket at most for each file. -/
theorem nodup_firsts (sources : List (List Event)) :
    ((firsts sources).map Ticket.rank).Nodup := by
  have h : (firsts sources).Pairwise fun t u => t.rank < u.rank := by
    unfold firsts
    rw [List.pairwise_filterMap, List.pairwise_iff_getElem]
    intro i j hi hj hij t ht u hu
    simp only [List.getElem_mapIdx, id_eq, Option.map_eq_some_iff] at ht hu
    obtain ⟨e, -, rfl⟩ := ht
    obtain ⟨f, -, rfl⟩ := hu
    exact hij
  exact List.pairwise_map.2 (h.imp Nat.ne_of_lt)

end Ticket

namespace Merging

/-- What every file has not yet given, the head included. -/
def unread (m : Merging) : List (List Event) :=
  List.zipWith (fun head rest => head.toList ++ rest) m.heads m.rest

/-- **The invariant of the merge.**  The queue is in order and holds exactly one ticket for each
head, with the head's time; a file without a head has come to its end. -/
structure Valid (m : Merging) : Prop where
  /-- Every file has a place among the heads and among what follows them. -/
  length_eq : m.heads.length = m.rest.length
  /-- The queue is in order. -/
  sorted : m.queue.Pairwise fun t u => t.notAfter u = true
  /-- No file has two tickets. -/
  nodup : (m.queue.map Ticket.rank).Nodup
  /-- A file has a ticket exactly if it has a head, and the ticket has the head's time. -/
  ticket_iff : ∀ (rank : ℕ) (time : ℤ), (∃ t ∈ m.queue, t.rank = rank ∧ t.time = time) ↔
    ∃ e, m.heads[rank]? = some (some e) ∧ e.time = time
  /-- A file without a head has nothing left. -/
  drained : ∀ rank : ℕ, m.heads[rank]? = some none → m.rest[rank]? = some []

theorem getElem?_unread (m : Merging) (i : ℕ) :
    m.unread[i]? = (m.heads[i]?.bind fun head => m.rest[i]?.map (head.toList ++ ·)) := by
  simp only [unread, List.getElem?_zipWith]
  cases m.heads[i]? <;> cases m.rest[i]? <;> rfl

theorem unread_start (sources : List (List Event)) : (start sources).unread = sources := by
  apply List.ext_getElem?
  intro i
  rw [getElem?_unread]
  simp only [start, List.getElem?_map]
  cases sources[i]? with
  | none => rfl
  | some s => cases s <;> rfl

/-- **The invariant holds at the start.** -/
theorem valid_start (sources : List (List Event)) : (start sources).Valid where
  length_eq := by simp [start]
  sorted := Ticket.pairwise_foldl_join _ .nil
  nodup := by
    have hperm := (Ticket.foldl_join_perm (Ticket.firsts sources) []).map Ticket.rank
    rw [List.append_nil] at hperm
    exact hperm.nodup_iff.2 (Ticket.nodup_firsts sources)
  ticket_iff := by
    intro rank time
    have hmem : ∀ t, t ∈ (start sources).queue ↔ t ∈ Ticket.firsts sources := fun t => by
      simpa [start] using (Ticket.foldl_join_perm (Ticket.firsts sources) []).mem_iff (a := t)
    simp only [hmem, Ticket.mem_firsts]
    simp only [start, List.getElem?_map, Option.map_eq_some_iff, List.head?_eq_some_iff]
    constructor
    · rintro ⟨t, ⟨e, s, hs, ht⟩, rfl, rfl⟩
      exact ⟨e, ⟨_, hs, s, rfl⟩, by rw [ht]⟩
    · rintro ⟨e, ⟨_, hs, s, rfl⟩, rfl⟩
      exact ⟨⟨e.time, rank, 0⟩, ⟨e, s, hs, rfl⟩, rfl, rfl⟩
  drained := by
    intro rank h
    simp only [start, List.getElem?_map, Option.map_eq_some_iff, List.head?_eq_none_iff] at h ⊢
    obtain ⟨s, hs, rfl⟩ := h
    exact ⟨[], hs, rfl⟩

/-! ### One step -/

variable {m m' : Merging} {t : Ticket} {queue : List Ticket}

/-- What serving a ticket does when its file has a head: the file reads on. -/
theorem serve_eq {e : Event} {r : List Event} (hhead : m.heads[t.rank]? = some (some e))
    (hrest : m.rest[t.rank]? = some r) :
    m.serve t queue =
      { queue := r.head?.elim queue fun next =>
          Ticket.join ⟨next.time, t.rank, t.position + 1⟩ queue
        heads := m.heads.set t.rank r.head?
        rest := m.rest.set t.rank r.tail
        merged := m.merged.push e } := by
  simp only [serve, hhead, hrest, Option.join_some, Option.getD_some]
  cases r with
  | nil =>
    obtain ⟨hlt, hr⟩ := List.getElem?_eq_some_iff.1 hrest
    have hset : m.rest.set t.rank [] = m.rest := by rw [← hr, List.set_getElem_self]
    simp [hset]
  | cons next r => rfl

theorem unread_set {heads : List (Option Event)} {rest : List (List Event)} {merged : Array Event}
    {q : List Ticket} (i : ℕ) (head : Option Event) (r : List Event) :
    (⟨q, heads.set i head, rest.set i r, merged⟩ : Merging).unread =
      (⟨q, heads, rest, merged⟩ : Merging).unread.set i (head.toList ++ r) := by
  apply List.ext_getElem?
  intro j
  simp only [unread, List.getElem?_set, List.length_zipWith]
  by_cases hij : i = j
  · subst hij
    by_cases hh : i < heads.length <;> by_cases hr : i < rest.length <;> simp [hh, hr]
  · simp [hij, List.getElem?_zipWith]

theorem Valid.rest_of_head (hm : m.Valid) {i : ℕ} {head : Option Event}
    (h : m.heads[i]? = some head) :
    ∃ r, m.rest[i]? = some r ∧ m.unread[i]? = some (head.toList ++ r) := by
  obtain ⟨hi, -⟩ := List.getElem?_eq_some_iff.1 h
  rw [hm.length_eq] at hi
  refine ⟨m.rest[i], List.getElem?_eq_getElem hi, ?_⟩
  rw [getElem?_unread, h, List.getElem?_eq_getElem hi]
  rfl

/-- The first event that a file has not yet given is its head. -/
theorem Valid.head_of_unread (hm : m.Valid) {j : ℕ} {b : Event} {s : List Event}
    (h : m.unread[j]? = some (b :: s)) : m.heads[j]? = some (some b) := by
  rw [getElem?_unread] at h
  obtain ⟨head, hhead, h⟩ := Option.bind_eq_some_iff.1 h
  obtain ⟨r, hr, h⟩ := Option.map_eq_some_iff.1 h
  cases head with
  | none =>
    obtain rfl : [] = r := Option.some.inj ((hm.drained j hhead).symm.trans hr)
    cases h
  | some x =>
    obtain ⟨rfl, -⟩ := List.cons.inj h
    exact hhead

/-- **The ticket at the front always finds a head.** -/
theorem Valid.head_of_front (hm : m.Valid) (hq : m.queue = t :: queue) :
    ∃ e, m.heads[t.rank]? = some (some e) ∧ e.time = t.time :=
  (hm.ticket_iff t.rank t.time).1 ⟨t, hq ▸ List.mem_cons_self, rfl, rfl⟩

/-- No head comes before the one whose ticket is at the front. -/
theorem Valid.front_le (hm : m.Valid) (hq : m.queue = t :: queue) {j : ℕ} {b : Event}
    (h : m.heads[j]? = some (some b)) : t.time < b.time ∨ t.time = b.time ∧ t.rank ≤ j := by
  obtain ⟨u, hu, rfl, hut⟩ := (hm.ticket_iff j b.time).2 ⟨b, h, rfl⟩
  rw [hq] at hu
  rcases List.mem_cons.1 hu with rfl | hu
  · omega
  · have hsorted := hm.sorted
    rw [hq] at hsorted
    have htu := Ticket.notAfter_iff.1 ((List.pairwise_cons.1 hsorted).1 u hu)
    omega

/-- Serving the ticket at the front keeps the invariant. -/
theorem Valid.serve (hm : m.Valid) (hq : m.queue = t :: queue) : (m.serve t queue).Valid := by
  obtain ⟨e, hhead, -⟩ := hm.head_of_front hq
  obtain ⟨r, hrest, -⟩ := hm.rest_of_head hhead
  have hlt : t.rank < m.heads.length := (List.getElem?_eq_some_iff.1 hhead).1
  have hsorted := hm.sorted
  have hnodup := hm.nodup
  rw [hq, List.pairwise_cons] at hsorted
  rw [hq, List.map_cons, List.nodup_cons] at hnodup
  -- whether or not the file reads on, the queue loses the ticket and gains at most the next one
  have hperm : (r.head?.elim queue fun next =>
      Ticket.join ⟨next.time, t.rank, t.position + 1⟩ queue).Perm
        ((r.head?.map fun next => ⟨next.time, t.rank, t.position + 1⟩).toList ++ queue) := by
    cases r with
    | nil => exact .refl _
    | cons next r => exact Ticket.join_perm _ _
  rw [serve_eq hhead hrest]
  refine ⟨by simpa using hm.length_eq, ?_, ?_, fun rank time => ?_, fun rank h => ?_⟩
  · cases r with
    | nil => exact hsorted.2
    | cons next r => exact Ticket.pairwise_join _ hsorted.2
  · refine (hperm.map Ticket.rank).nodup_iff.2 ?_
    cases r with
    | nil => exact hnodup.2
    | cons next r => exact List.nodup_cons.2 hnodup
  · simp only [hperm.mem_iff, List.mem_append, Option.mem_toList,
      Option.map_eq_some_iff, List.getElem?_set, hlt, if_true]
    by_cases hrank : t.rank = rank
    · subst hrank
      simp only [if_true, Option.some.injEq]
      constructor
      · rintro ⟨u, ⟨next, hnext, rfl⟩ | hu, hur, rfl⟩
        · exact ⟨next, hnext, rfl⟩
        · exact absurd (List.mem_map.2 ⟨u, hu, hur⟩) hnodup.1
      · rintro ⟨next, hnext, rfl⟩
        exact ⟨_, .inl ⟨next, hnext, rfl⟩, rfl, rfl⟩
    · simp only [hrank, if_false]
      rw [← hm.ticket_iff, hq]
      constructor
      · rintro ⟨u, ⟨next, -, rfl⟩ | hu, hur, hut⟩
        · exact absurd hur hrank
        · exact ⟨u, List.mem_cons_of_mem _ hu, hur, hut⟩
      · rintro ⟨u, hu, hur, hut⟩
        rcases List.mem_cons.1 hu with rfl | hu
        · exact absurd hur hrank
        · exact ⟨u, .inr hu, hur, hut⟩
  · simp only [List.getElem?_set, ← hm.length_eq, hlt, if_true] at h ⊢
    by_cases hrank : t.rank = rank
    · simp only [hrank, if_true, Option.some.injEq, List.head?_eq_none_iff] at h ⊢
      rw [h, List.tail_nil]
    · simp only [hrank, if_false] at h ⊢
      exact hm.drained rank h

/-- **One step of the merge.**  The first of the earliest heads goes to the stream, and the
invariant holds again. -/
theorem Valid.step (hm : m.Valid) (h : m.step = some m') :
    ∃ (i : ℕ) (e : Event) (s : List Event), m.unread[i]? = some (e :: s) ∧
      (∀ (j : ℕ) (b : Event) (u : List Event), m.unread[j]? = some (b :: u) →
        (j < i → e.time < b.time) ∧ (i < j → e.time ≤ b.time)) ∧
      m'.unread = m.unread.set i s ∧ m'.merged = m.merged.push e ∧ m'.Valid := by
  unfold Merging.step at h
  split at h
  · cases h
  · next t queue hq =>
    obtain ⟨e, hhead, htime⟩ := hm.head_of_front hq
    obtain ⟨r, hrest, hunread⟩ := hm.rest_of_head hhead
    have hserve : m.serve t queue = _ := serve_eq hhead hrest
    cases h
    refine ⟨t.rank, e, r, hunread, fun j b u hj => ?_, ?_, by rw [hserve], hm.serve hq⟩
    · have := hm.front_le hq (hm.head_of_unread hj)
      omega
    · rw [hserve, unread_set]
      cases r <;> rfl

/-! ### All steps -/

/-- With nothing in the queue the files are at their end. -/
theorem Valid.unread_eq_nil (hm : m.Valid) (h : m.step = none) : ∀ s ∈ m.unread, s = [] := by
  have hq : m.queue = [] := by
    unfold Merging.step at h
    split at h
    · assumption
    · cases h
  intro s hs
  obtain ⟨i, hi, rfl⟩ := List.getElem_of_mem hs
  cases hu : m.unread[i] with
  | nil => rfl
  | cons b s =>
    have hhead := hm.head_of_unread ((List.getElem?_eq_getElem hi).trans (congrArg some hu))
    obtain ⟨t, ht, -⟩ := (hm.ticket_iff i b.time).2 ⟨b, hhead, rfl⟩
    simp [hq] at ht

/-- **A whole merge.**  What is not yet in the stream follows there as if the files were merged two
at a time. -/
theorem Valid.toList_run (hm : m.Valid) :
    m.run.toList = m.merged.toList ++ mergeAll Event.notLater m.unread := by
  induction m using run.induct with
  | case1 m h =>
    rw [run_of_step_eq_none h, mergeAll_eq_nil (hm.unread_eq_nil h), List.append_nil]
  | case2 m next h _ ih =>
    obtain ⟨i, e, s, hi, hmin, hunread, hmerged, hnext⟩ := hm.step h
    -- what is served is what merging two at a time would give first
    have hfirst : mergeAll Event.notLater m.unread = e :: mergeAll Event.notLater next.unread := by
      rw [hunread]
      refine mergeAll_eq_cons hi fun j b u hj => ?_
      simp only [Event.notLater, decide_eq_false_iff_not, decide_eq_true_eq, not_le]
      exact hmin j b u hj
    rw [run_of_step_eq_some h, ih hnext, hfirst, hmerged, Array.toList_push, List.append_assoc]
    rfl

end Merging

/-- The files merged with a queue are the files merged two at a time, in order or not. -/
theorem merge_eq_mergeAll (sources : List (List Event)) :
    merge sources = mergeAll Event.notLater sources := by
  rw [merge, (Merging.valid_start sources).toList_run, Merging.unread_start]
  rfl

end ReplicaTrace
