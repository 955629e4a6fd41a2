import ReplicaTrace.Merge

/-!
# The stream of all events

The files are merged into one stream (`merge`), which expects each of them in the order of time.
The clock of a server may be set back, so that a file may have to be put into that order first.

* `inTimeOrder` : the events of one file in the order of time, where events of the same millisecond
  keep the order of the file.
* `descents` : how often a file goes back in time from one event to the next.
* `restoreOrder` : both for one file, which is sorted only if it goes back in time.
-/

namespace ReplicaTrace

/-- The first event is not later than the second. -/
def Event.notLater (a b : Event) : Bool :=
  decide (a.time ≤ b.time)

/-- The number of neighbours of which the second is earlier. -/
def descents : List Event → Nat
  | a :: b :: es => (if b.time < a.time then 1 else 0) + descents (b :: es)
  | _ => 0

/-- The events in the order of time; those of the same millisecond keep their order. -/
def inTimeOrder (events : List Event) : List Event :=
  events.mergeSort Event.notLater

/-- The events in the order of time and the number of descents.  Servers only append to their files,
so that there is rarely anything to sort: without a descent the events stay as they are. -/
def restoreOrder (events : List Event) : List Event × Nat :=
  let backwards := descents events
  (if 0 < backwards then inTimeOrder events else events, backwards)

/-! ### Laws -/

theorem Event.notLater_trans (a b c : Event) (h₁ : a.notLater b = true)
    (h₂ : b.notLater c = true) : a.notLater c = true := by
  simp only [Event.notLater, decide_eq_true_eq] at *
  exact Int.le_trans h₁ h₂

theorem Event.notLater_total (a b : Event) : (a.notLater b || b.notLater a) = true := by
  simp only [Event.notLater, Bool.or_eq_true, decide_eq_true_eq]
  exact Int.le_total _ _

theorem inTimeOrder_perm (events : List Event) : (inTimeOrder events).Perm events :=
  List.mergeSort_perm _ _

/-- Later events come later. -/
theorem inTimeOrder_sorted (events : List Event) :
    (inTimeOrder events).Pairwise fun a b => a.time ≤ b.time := by
  have := List.pairwise_mergeSort Event.notLater_trans Event.notLater_total events
  unfold inTimeOrder
  simpa only [Event.notLater, decide_eq_true_eq] using this

/-- A file goes never back in time exactly when it is in the order of time. -/
theorem descents_eq_zero_iff {events : List Event} :
    descents events = 0 ↔ events.Pairwise fun a b => a.time ≤ b.time := by
  induction events with
  | nil => simp [descents]
  | cons a es ih =>
    cases es with
    | nil => simp [descents]
    | cons b es =>
      rw [descents, List.pairwise_cons]
      constructor
      · intro h
        split at h
        · omega
        · have hp := ih.1 (by omega)
          refine ⟨?_, hp⟩
          intro c hc
          rcases List.mem_cons.1 hc with rfl | hc
          · omega
          · have := (List.pairwise_cons.1 hp).1 c hc
            omega
      · rintro ⟨h, hp⟩
        have := h b (List.mem_cons_self ..)
        rw [if_neg (by omega), ih.2 hp]

theorem inTimeOrder_eq_self {events : List Event}
    (h : events.Pairwise fun a b => a.time ≤ b.time) : inTimeOrder events = events :=
  List.mergeSort_of_pairwise (h.imp fun {a b} hab => by simpa [Event.notLater] using hab)

/-- Where nothing is sorted, sorting would change nothing. -/
theorem restoreOrder_eq (events : List Event) :
    restoreOrder events = (inTimeOrder events, descents events) := by
  dsimp only [restoreOrder]
  by_cases h : descents events = 0
  · rw [if_neg (by omega), inTimeOrder_eq_self (descents_eq_zero_iff.1 h)]
  · rw [if_pos (by omega)]

end ReplicaTrace
