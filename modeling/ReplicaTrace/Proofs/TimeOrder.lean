import ReplicaTrace.Proofs.Stream

/-!
# A file in the order of time

A file that goes back in time is sorted, one that does not is left as it is.  Either way the outcome
is the stable sort of the file, of which there is only one.

* `IsStableSort` : the events by time, and those of one millisecond as they stood.
* `IsStableSort.unique` : a file has one stable sort.
* `restoreOrder_tells` : what becomes of a file and of one that was sorted before, and the number of
  its descents.
-/

namespace ReplicaTrace

/-- The events `after` are the stable sort of the events `before`. -/
structure IsStableSort (before after : List Event) : Prop where
  /-- No event is lost and none comes twice. -/
  perm : after.Perm before
  /-- Later events come later. -/
  ordered : after.Pairwise fun a b => a.time ≤ b.time
  /-- The events of one millisecond stay in the order in which they stood. -/
  stable : ∀ time : ℤ,
    (after.filter fun e => e.time = time) = before.filter fun e => e.time = time

variable {before after after' : List Event}

/-- The first event of a list in the order of time is the earliest. -/
theorem time_le_of_mem {a e : Event} {es : List Event}
    (h : (a :: es).Pairwise fun a b => a.time ≤ b.time) (he : e ∈ a :: es) : a.time ≤ e.time := by
  rcases List.mem_cons.1 he with rfl | he
  · exact le_rfl
  · exact (List.pairwise_cons.1 h).1 e he

theorem mem_iff_of_filter_time_eq (heq : ∀ time : ℤ,
    (after.filter fun e => e.time = time) = after'.filter fun e => e.time = time) (e : Event) :
    e ∈ after ↔ e ∈ after' := by
  have h : (e ∈ after.filter fun f => f.time = e.time) ↔
      e ∈ after'.filter fun f => f.time = e.time := by rw [heq]
  simpa using h

/-- Lists in the order of time are equal if they have the same events in every millisecond. -/
theorem eq_of_filter_time_eq (h : after.Pairwise fun a b => a.time ≤ b.time)
    (h' : after'.Pairwise fun a b => a.time ≤ b.time)
    (heq : ∀ time : ℤ,
      (after.filter fun e => e.time = time) = after'.filter fun e => e.time = time) :
    after = after' := by
  induction after generalizing after' with
  | nil =>
    have hnone : ∀ e, e ∉ after' := fun e he =>
      List.not_mem_nil ((mem_iff_of_filter_time_eq heq e).2 he)
    exact (List.eq_nil_iff_forall_not_mem.2 hnone).symm
  | cons a es ih =>
    have hmem := mem_iff_of_filter_time_eq heq
    cases after' with
    | nil => exact absurd ((hmem a).1 List.mem_cons_self) List.not_mem_nil
    | cons b fs =>
      -- each list starts in the earliest millisecond, and there with its first event
      have htime : a.time = b.time :=
        le_antisymm (time_le_of_mem h ((hmem b).2 List.mem_cons_self))
          (time_le_of_mem h' ((hmem a).1 List.mem_cons_self))
      have hfirst := heq a.time
      rw [List.filter_cons_of_pos (by simp), List.filter_cons_of_pos (by simp [htime])] at hfirst
      obtain ⟨rfl, -⟩ := List.cons.inj hfirst
      have hrest : ∀ time : ℤ,
          (es.filter fun e => e.time = time) = fs.filter fun e => e.time = time := by
        intro time
        have hboth := heq time
        by_cases ha : a.time = time
        · rw [List.filter_cons_of_pos (by simp [ha]), List.filter_cons_of_pos (by simp [ha])]
            at hboth
          exact (List.cons.inj hboth).2
        · rwa [List.filter_cons_of_neg (by simp [ha]), List.filter_cons_of_neg (by simp [ha])]
            at hboth
      rw [ih (List.pairwise_cons.1 h).2 (List.pairwise_cons.1 h').2 hrest]

/-- **A file has one stable sort.** -/
theorem IsStableSort.unique (h : IsStableSort before after) (h' : IsStableSort before after') :
    after = after' :=
  eq_of_filter_time_eq h.ordered h'.ordered fun time => (h.stable time).trans (h'.stable time).symm

/-- Sorting leaves the events of one millisecond as they stand. -/
theorem filter_inTimeOrder (events : List Event) (time : ℤ) :
    ((inTimeOrder events).filter fun e => e.time = time) =
      events.filter fun e => e.time = time := by
  let same : Event → Bool := fun e => e.time = time
  have hordered : (events.filter same).Pairwise fun a b => a.notLater b = true := by
    refine List.pairwise_of_forall_mem_list fun a ha b hb => ?_
    have hat : a.time = time := by simpa [same] using (List.mem_filter.1 ha).2
    have hbt : b.time = time := by simpa [same] using (List.mem_filter.1 hb).2
    simp [Event.notLater, hat, hbt]
  -- what is in order already stays a part of the sorted list
  have hpart : (events.filter same).Sublist ((inTimeOrder events).filter same) := by
    have hsub : (events.filter same).Sublist (inTimeOrder events) :=
      List.sublist_mergeSort Event.notLater_trans Event.notLater_total hordered
        List.filter_sublist
    simpa using hsub.filter same
  exact (hpart.eq_of_length ((inTimeOrder_perm events).filter same).length_eq.symm).symm

theorem isStableSort_inTimeOrder (events : List Event) :
    IsStableSort events (inTimeOrder events) where
  perm := inTimeOrder_perm events
  ordered := inTimeOrder_sorted events
  stable := filter_inTimeOrder events

/-- **Restoring the order of a file.**  The outcome is the stable sort of the file and nothing else,
whether it was sorted or left alone, and the number is that of the neighbours of which the second is
earlier.  The number is `0` exactly for a file in the order of time, which stays as it is, and doing
it again gives `0` and changes nothing. -/
theorem restoreOrder_tells (events : List Event) :
    (∀ after, IsStableSort events after ↔ after = (restoreOrder events).1) ∧
      (restoreOrder events).2 =
        ((events.map Event.time).zip (events.map Event.time).tail).countP (fun p => p.2 < p.1) ∧
      ((restoreOrder events).2 = 0 ↔ events.Pairwise fun a b => a.time ≤ b.time) ∧
      ((restoreOrder events).2 = 0 → (restoreOrder events).1 = events) ∧
      restoreOrder (restoreOrder events).1 = ((restoreOrder events).1, 0) := by
  rw [restoreOrder_eq]
  dsimp only
  have hsorted := inTimeOrder_sorted events
  refine ⟨fun after => ⟨fun h => ?_, ?_⟩, descents_eq_countP events, descents_eq_zero_iff,
    fun h => ?_, ?_⟩
  · exact h.unique (isStableSort_inTimeOrder events)
  · rintro rfl
    exact isStableSort_inTimeOrder events
  · exact inTimeOrder_eq_self (descents_eq_zero_iff.1 h)
  · rw [restoreOrder_eq, inTimeOrder_eq_self hsorted, descents_eq_zero_iff.2 hsorted]

end ReplicaTrace
