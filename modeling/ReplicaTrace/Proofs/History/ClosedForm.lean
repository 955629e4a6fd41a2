import ReplicaTrace.Proofs.History.OwnEvents

/-!
# The history in closed form

Replaying a stream gives for every event a snapshot in which each server is as its own events so
far say.  The snapshot and the whole replay are written down here as functions of the events
(`Snapshot.ofEvents`, `Replay.ofEvents`), and one more event is shown to do to them what the replay
does.

* `Replay.step_ofEvents` : one event.
* `Replay.run_eq_ofEvents` : all events.
-/

namespace ReplicaTrace

namespace Registry

variable {r : Registry}

theorem lt_size_of_index? {id : ServerId} {k : ℕ} (h : r.index? id = some k) : k < r.size :=
  (List.getElem?_eq_some_iff.1 (index?_eq_some_iff.1 h)).1

theorem exists_index?_of_knows {e : Event} (h : r.knows e = true) :
    ∃ k, r.index? e.server = some k :=
  Option.isSome_iff_exists.1 h

/-- A column with one value for each server, changed at one server. -/
theorem set_map_ids {α : Type} {f g : ServerId → α} {id : ServerId} {k : ℕ} {a : α}
    (h : r.index? id = some k) (ha : g id = a) (hne : ∀ x, id ≠ x → g x = f x) :
    (r.ids.map f).set k a = r.ids.map g := by
  have hk : r.ids[k]? = some id := index?_eq_some_iff.1 h
  apply List.ext_getElem?
  intro j
  rw [List.getElem?_set, List.getElem?_map, List.getElem?_map, List.length_map]
  by_cases hjk : k = j
  · -- the server that changes
    subst hjk
    have hlt : k < r.ids.length := (List.getElem?_eq_some_iff.1 hk).1
    simp only [hlt, if_true, hk, Option.map_some, ha]
  · simp only [hjk, if_false]
    cases hj : r.ids[j]? with
    | none => rfl
    | some x =>
      -- no two places hold the same id
      have hx : id ≠ x := by
        rintro rfl
        exact hjk (Option.some.inj (h.symm.trans (index?_eq_some_iff.2 hj)))
      simp [hne x hx]

/-- A column that is changed at one server, or not at all. -/
theorem ite_set_map_ids {α : Type} {f g : ServerId → α} {id : ServerId} {k : ℕ} {a : α} {c : Prop}
    [Decidable c] (h : r.index? id = some k) (hg : g id = if c then a else f id)
    (hne : ∀ x, id ≠ x → g x = f x) :
    (if c then (r.ids.map f).set k a else r.ids.map f) = r.ids.map g := by
  split
  · next hc => exact set_map_ids h (by rw [hg, if_pos hc]) hne
  · next hc =>
    refine List.map_congr_left fun x _ => ?_
    by_cases hx : id = x
    · rw [← hx, hg, if_neg hc]
    · exact (hne x hx).symm

end Registry

/-! ### One snapshot -/

variable (r : Registry)

/-- The snapshot after the given events, server by server. -/
def Snapshot.ofEvents (past : List Event) : Snapshot where
  size := r.size
  action := (past.getLast?.map fun e => e.action.label).getD ""
  actor := past.getLast?.bind fun e => r.index? e.server
  location := past.getLast?.map Event.location
  slots := r.ids.map fun id => slotAfter (ownEvents id past)
  logs := r.ids.map fun id => logAfter (ownEvents id past)
  roles := r.ids.map fun id => roleAfter (ownEvents id past)
  progress := r.ids.map fun id => lastReport (ownEvents id past)

namespace Snapshot

@[simp] theorem ofEvents_nil : ofEvents r [] = initial r.size := by
  simp only [ofEvents, initial, ownEvents, List.filter_nil]
  simp [Registry.size, slotAfter, logAfter, roleAfter, lastReport, Progress.start, List.map_const']

theorem wellFormed_ofEvents (past : List Event) : (ofEvents r past).wellFormed = true := by
  simp [wellFormed, ofEvents, Registry.size]

variable {r} {past : List Event} {e : Event} {k : ℕ}

@[simp] theorem action_ofEvents_concat : (ofEvents r (past ++ [e])).action = e.action.label := by
  simp [ofEvents]

@[simp] theorem location_ofEvents_concat :
    (ofEvents r (past ++ [e])).location = some e.location := by
  simp [ofEvents]

@[simp] theorem actor_ofEvents_concat :
    (ofEvents r (past ++ [e])).actor = r.index? e.server := by
  simp [ofEvents]

theorem progressOf_ofEvents {id : ServerId} (h : r.index? id = some k) :
    (ofEvents r past).progressOf k = lastReport (ownEvents id past) := by
  simp [progressOf, ofEvents, show r.ids[k]? = some id from Registry.index?_eq_some_iff.1 h]

theorem slotOf_ofEvents {id : ServerId} (h : r.index? id = some k) :
    (ofEvents r past).slotOf k = slotAfter (ownEvents id past) := by
  simp [slotOf, ofEvents, show r.ids[k]? = some id from Registry.index?_eq_some_iff.1 h]

theorem roleOf_ofEvents {id : ServerId} (h : r.index? id = some k) :
    (ofEvents r past).roleOf k = roleAfter (ownEvents id past) := by
  simp [roleOf, ofEvents, show r.ids[k]? = some id from Registry.index?_eq_some_iff.1 h]

theorem logOf_ofEvents {id : ServerId} (h : r.index? id = some k) :
    (ofEvents r past).logOf k = logAfter (ownEvents id past) := by
  simp [logOf, ofEvents, show r.ids[k]? = some id from Registry.index?_eq_some_iff.1 h]

/-- **One event.**  Advancing the snapshot of the events gives the snapshot with one event more. -/
theorem advance_ofEvents (h : r.index? e.server = some k) :
    (ofEvents r past).advance k e = ofEvents r (past ++ [e]) := by
  -- the event is one of its server's own and of no other server's
  have hown := ownEvents_concat_self e past
  have hother : ∀ x, e.server ≠ x → ownEvents x (past ++ [e]) = ownEvents x past :=
    fun x hx => ownEvents_concat_of_ne e past hx
  simp only [advance, roleOf_ofEvents h, logOf_ofEvents h]
  simp only [ofEvents, List.getLast?_concat, Option.map_some, Option.getD_some, Option.bind_some,
    h, Snapshot.mk.injEq, true_and]
  refine ⟨?_, ?_, ?_, ?_⟩
  · refine Registry.ite_set_map_ids h ?_ fun x hx => by rw [hother x hx]
    rw [hown, slotAfter_concat]
  · refine Registry.ite_set_map_ids h ?_ fun x hx => by rw [hother x hx]
    rw [hown, logAfter_concat, recordOf, roleAfter_concat]
    rfl
  · exact Registry.set_map_ids h (by rw [hown, roleAfter_concat]) fun x hx => by rw [hother x hx]
  · exact Registry.set_map_ids h (by rw [hown, lastReport_concat]) fun x hx => by rw [hother x hx]

end Snapshot

/-! ### The whole replay -/

/-- The violations of an event with the given events before it. -/
def violationsAt (past : List Event) (e : Event) : List Violation :=
  match r.index? e.server with
  | none => []
  | some actor =>
    (regressions (lastReport (ownEvents e.server past)) e).map fun x =>
      ⟨past.length, actor, e.server, x, e⟩

/-- The replay of the given events, event by event. -/
def Replay.ofEvents (events : List Event) : Replay where
  current := .ofEvents r events
  history := ((withPast events).map fun p => .ofEvents r (p.1 ++ [p.2])).toArray
  violations := ((withPast events).flatMap fun p => violationsAt r p.1 p.2).toArray

namespace Replay

@[simp] theorem ofEvents_nil : ofEvents r [] = start r.size := by
  simp [ofEvents, start]

variable {r} {events : List Event}

/-- **One event.**  The replay goes on from the closed form to the closed form. -/
theorem step_ofEvents {past : List Event} {e : Event} {k : ℕ} (h : r.index? e.server = some k) :
    (ofEvents r past).step k e = ofEvents r (past ++ [e]) := by
  have hprogress : (Snapshot.ofEvents r past).progressOf k = lastReport (ownEvents e.server past) :=
    Snapshot.progressOf_ofEvents h
  have hadvance : (Snapshot.ofEvents r past).advance k e = .ofEvents r (past ++ [e]) :=
    Snapshot.advance_ofEvents h
  simp only [step, ofEvents, hprogress, hadvance, mk.injEq, true_and]
  constructor
  · simp
  · simp [violationsAt, h]

/-- **All events.**  The replay of known servers succeeds and is the closed form. -/
theorem run_eq_ofEvents (h : ∀ e ∈ events, r.knows e = true) :
    run r events = .ok (ofEvents r events) := by
  unfold run
  induction events using List.reverseRecOn with
  | nil => rw [ofEvents_nil]; rfl
  | append_singleton past e ih =>
    obtain ⟨k, hk⟩ := Registry.exists_index?_of_knows (h e (by simp))
    rw [List.foldlM_append, ih fun x hx => h x (List.mem_append_left _ hx)]
    change (apply r (ofEvents r past) e >>= fun p => pure p) = _
    simp only [apply, hk, step_ofEvents hk]
    rfl

/-- The `i`-th snapshot. -/
theorem getElem?_snapshots_ofEvents (i : ℕ) :
    (ofEvents r events).snapshots[i]? =
      if i < events.length then some (.ofEvents r (events.take (i + 1))) else none := by
  simp only [snapshots, ofEvents, List.getElem?_map, getElem?_withPast]
  split
  · next hi => simp [List.getElem?_eq_getElem hi, List.take_append_getElem]
  · next hi => simp [List.getElem?_eq_none (Nat.le_of_not_lt hi)]

end Replay

end ReplicaTrace
