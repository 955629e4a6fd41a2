import ReplicaTrace.Proofs.History.Violations

/-!
# Events that are rejected

A replay that is changed in place is left alone by an event whose server is not in the registry:
the server is looked up before anything is changed.  Feeding a replay event by event, whatever
becomes of each, is therefore the same as replaying the events of the registry's servers at once,
and replaying all of them at once fails exactly at the first event of another server.

* `Replay.run_applyInPlace` : changing a replay in place does what `Replay.apply` says.
* `Replay.foldlM_apply_known` : event by event and all at once.
* `Replay.foldlM_apply` : where replaying all events fails.
* `Replay.applyInPlace_unknown` : all of it for a registry.
-/

namespace ReplicaTrace

namespace Replay

variable {r : Registry} {p : Replay} {e : Event}

/-! ### One event -/

/-- The regressions are noted in their order, with the place of the next snapshot. -/
theorem run_forM_note (actor : ℕ) (e : Event) (xs : List Regression) (p : Replay) :
    (forM xs (note actor e)).run.run p = (.ok (), { p with
      violations := p.violations ++ xs.map fun x =>
        (⟨p.history.size, actor, e.server, x, e⟩ : Violation) }) := by
  induction xs generalizing p with
  | nil =>
    rw [List.forM_nil, List.map_nil, Array.appendList_nil]
    rfl
  | cons x xs ih =>
    have hfirst : (note actor e x).run.run p = (.ok (), { p with
        violations := p.violations.push ⟨p.history.size, actor, e.server, x, e⟩ }) := rfl
    rw [List.forM_cons, ExceptT.run_bind, StateT.run_bind, hfirst]
    exact (ih _).trans (by rw [List.map_cons, Array.appendList_cons])

/-- **Changing a replay in place** does what applying the event says, and nothing if there is a
fault. -/
theorem run_applyInPlace (r : Registry) (p : Replay) (e : Event) :
    (applyInPlace r e).run.run p =
      match p.apply r e with
      | .ok next => (.ok (), next)
      | .error fault => (.error fault, p) := by
  unfold applyInPlace apply
  cases r.index? e.server with
  | none => rfl
  | some actor =>
    have hnoted := run_forM_note actor e (regressions (p.current.progressOf actor) e) p
    have hget : (get : InPlace Replay).run.run p = (.ok p, p) := rfl
    dsimp only
    rw [ExceptT.run_bind, StateT.run_bind, hget]
    change (((forM (regressions (p.current.progressOf actor) e) (note actor e)) >>= fun _ =>
      goOn (p.current.advance actor e)).run.run p) = _
    rw [ExceptT.run_bind, StateT.run_bind, hnoted]
    rfl

theorem apply_eq_error (h : r.knows e = false) : p.apply r e = .error ⟨e.server, e.location⟩ := by
  have hnone : r.index? e.server = none := by simpa [Registry.knows] using h
  rw [apply, hnone]

theorem feed_eq_self (h : r.knows e = false) : p.feed r e = p := by
  rw [feed, run_applyInPlace, apply_eq_error h]

theorem apply_eq_ok_feed (h : r.knows e = true) : p.apply r e = .ok (p.feed r e) := by
  obtain ⟨actor, hactor⟩ := Registry.exists_index?_of_knows h
  have hstep : p.apply r e = .ok (p.step actor e) := by rw [apply, hactor]
  rw [feed, run_applyInPlace, hstep]

/-! ### All events -/

/-- Replaying the events of known servers ends where feeding all events does. -/
theorem foldlM_apply_known (events : List Event) (p : Replay) :
    (events.filter r.knows).foldlM (apply r) p = .ok (events.foldl (feed r) p) := by
  induction events generalizing p with
  | nil => rfl
  | cons e es ih =>
    rw [List.foldl_cons, List.filter_cons]
    by_cases h : r.knows e = true
    · rw [if_pos h, List.foldlM_cons, apply_eq_ok_feed h]
      exact ih (p.feed r e)
    · rw [if_neg h, feed_eq_self (Bool.eq_false_iff.2 h)]
      exact ih p

/-- Replaying all events fails at the first event of an unknown server. -/
theorem foldlM_apply (events : List Event) (p : Replay) :
    events.foldlM (apply r) p =
      match events.find? (!r.knows ·) with
      | none => .ok (events.foldl (feed r) p)
      | some e => .error ⟨e.server, e.location⟩ := by
  induction events generalizing p with
  | nil => rfl
  | cons e es ih =>
    rw [List.foldlM_cons, List.foldl_cons]
    by_cases h : r.knows e = true
    · rw [List.find?_cons_of_neg (by simp [h]), apply_eq_ok_feed h]
      exact ih (p.feed r e)
    · rw [List.find?_cons_of_pos (by simp [h]), apply_eq_error (Bool.eq_false_iff.2 h)]
      rfl

/-- **An event of an unknown server is rejected and changes nothing.**  Whatever a replay has come
to, an event whose server is not in the registry gives the fault with this server and the place of
the event, and the replay stays as it was.

Hence feeding any events one by one, whatever becomes of each, gives the replay of those of the
registry's servers; and replaying all of them at once gives the same replay if there is no other
event, and otherwise the fault of the first one. -/
theorem applyInPlace_unknown (r : Registry) :
    (∀ (p : Replay) (e : Event), e.server ∉ r.ids →
      (applyInPlace r e).run.run p = (.error ⟨e.server, e.location⟩, p)) ∧
    ∀ events : List Event,
      run r (events.filter fun e => e.server ∈ r.ids) =
        .ok (events.foldl (feed r) (start r.size)) ∧
      run r events =
        match events.find? fun e => e.server ∉ r.ids with
        | none => .ok (events.foldl (feed r) (start r.size))
        | some e => .error ⟨e.server, e.location⟩ := by
  have hknown : (fun e : Event => decide (e.server ∈ r.ids)) = r.knows := r.knows_eq.symm
  have hunknown : (fun e : Event => decide (e.server ∉ r.ids)) = (!r.knows ·) := by
    funext e
    rw [r.knows_eq, decide_not]
  refine ⟨fun p e h => ?_, fun events => ⟨?_, ?_⟩⟩
  · have hrejected : r.knows e = false := by simp [r.knows_eq, h]
    rw [run_applyInPlace, apply_eq_error hrejected]
  · rw [hknown]
    exact foldlM_apply_known events _
  · rw [hunknown]
    exact foldlM_apply events _

/-- Two servers, and events of a third one before, between and after their events, one of which
falls in slot and in ballot. -/
def strayEvents : List Event :=
  [.brief 0 1 1 "9" .p2a 1 1, .brief 0 2 2 "1" .becomeLeader 3 2, .brief 1 1 3 "9" .p3 0 0,
    .brief 0 3 4 "1" .p2a 1 1, .brief 1 2 5 "9" .p1a 4 4]

theorem applyInPlace_unknown_strayEvents :
    (∃ e ∈ strayEvents, e.server ∉ twoServers.ids ∧ ∀ p : Replay,
      (applyInPlace twoServers e).run.run p = (.error ⟨e.server, e.location⟩, p)) ∧
    run twoServers (strayEvents.filter fun e => e.server ∈ twoServers.ids) =
      .ok (strayEvents.foldl (feed twoServers) (start twoServers.size)) ∧
    (strayEvents.foldl (feed twoServers) (start twoServers.size)).violations.size = 2 ∧
    run twoServers strayEvents = .error ⟨⟨"9"⟩, "replica.log:1"⟩ := by
  obtain ⟨hrejected, hall⟩ := applyInPlace_unknown twoServers
  obtain ⟨hfed, hfirst⟩ := hall strayEvents
  have hstray : (Event.brief 0 1 1 "9" .p2a 1 1).server ∉ twoServers.ids := by decide
  exact ⟨⟨_, List.mem_cons_self, hstray, fun p => hrejected p _ hstray⟩, hfed, by decide +kernel,
    hfirst⟩

end Replay

end ReplicaTrace
