import ReplicaTrace.Proofs.History.Decreases
import ReplicaTrace.Proofs.Run.Reference
import ReplicaTrace.Report.Basic

/-!
# What the exit code says about the logs

The exit code of a run is a verdict on its log files.  It can be read off the events in the order of
time, then of the files, then of the lines, taken server by server: neither reading the files one
by one nor merging them nor leaving out other servers can hide that a server goes back, or make it
look as if one did.

* `pairwise_timeline` : the order of the timeline.
* `Stages.isRejected_iff` : when the model checker gives no favourable verdict.
* `Outcome.Judges` : what exit code and report say about events.
* `exists_judges_of_run` : a run judges the events of its log files.
-/

namespace ReplicaTrace

/-! ### The order of the timeline -/

/-- The line of the first event is before the line of the second: by the file, then by the line. -/
def Event.WrittenBefore (a b : Event) : Prop :=
  a.source.rank < b.source.rank ∨ a.source.rank = b.source.rank ∧ a.line < b.line

/-- The first event comes before the second: by time, then by the file, then by the line. -/
def Event.ComesBefore (a b : Event) : Prop :=
  a.time < b.time ∨ a.time = b.time ∧ a.WrittenBefore b

theorem LogFile.pairwise_lines (f : LogFile) : f.lines.Pairwise fun x y => x.2 < y.2 := by
  rw [List.pairwise_iff_getElem]
  intro i j hi hj hij
  simpa [LogFile.lines] using hij

theorem LogFile.origin_of_mem_events {marker : String} {rank : ℕ} {f : LogFile} {e : Event}
    (h : e ∈ f.events marker rank) : e.source.rank = rank := by
  obtain ⟨⟨bytes, number⟩, -, hevent⟩ := List.mem_filterMap.1 h
  rw [(origin_of_lineEvent? hevent).1]

theorem pairwise_writtenEvents (marker : String) (files : List LogFile) :
    (writtenEvents marker files).Pairwise Event.WrittenBefore := by
  rw [writtenEvents, List.pairwise_flatten]
  constructor
  · -- in one file by the line
    intro events hevents
    obtain ⟨i, hi, rfl⟩ := List.mem_mapIdx.1 hevents
    refine List.pairwise_filterMap.2 (files[i].pairwise_lines.imp ?_)
    rintro ⟨bytes, m⟩ ⟨bytes', n⟩ hmn a ha b hb
    obtain ⟨hsource, rfl⟩ := origin_of_lineEvent? ha
    obtain ⟨hsource', rfl⟩ := origin_of_lineEvent? hb
    exact .inr ⟨by rw [hsource, hsource'], hmn⟩
  · -- in two files by the file
    rw [List.pairwise_iff_getElem]
    intro i j hi hj hij a ha b hb
    rw [List.getElem_mapIdx] at ha hb
    left
    rw [LogFile.origin_of_mem_events ha, LogFile.origin_of_mem_events hb]
    exact hij

/-- **The timeline is in the order** of time, then of the files, then of the lines. -/
theorem pairwise_timeline (marker : String) (files : List LogFile) :
    (timeline marker files).Pairwise Event.ComesBefore := by
  have hstable := pairwise_mergeSort_stable Event.notLater_trans Event.notLater_total
    (pairwise_writtenEvents marker files)
  refine hstable.imp fun {a b} hab => ?_
  obtain ⟨hle, hplace⟩ := hab
  simp only [Event.notLater, decide_eq_true_eq] at hle hplace
  rcases lt_or_eq_of_le hle with hlt | heq
  · exact .inl hlt
  · exact .inr ⟨heq, hplace heq.ge⟩

/-! ### The verdict -/

/-- Some server of the registry goes back. -/
def Registry.SomeGoesBack (r : Registry) (events : List Event) : Prop :=
  ∃ id ∈ r.ids, GoesBack (ownEvents id events)

/-- **What exit code and report say**: whether a server goes back in the events, and otherwise
whether the model checker has refused the trace. -/
structure Outcome.Judges (o : Outcome) (events : List Event) (refused : Prop) : Prop where
  /-- The exit code is `2` exactly if some server goes back. -/
  backward : o.exitCode = 2 ↔ o.analysis.registry.SomeGoesBack events
  /-- The exit code is `3` exactly if no server does and the trace was refused. -/
  rejected : o.exitCode = 3 ↔ ¬ o.analysis.registry.SomeGoesBack events ∧ refused
  /-- In all other cases the exit code is `0`. -/
  accepted : o.exitCode = 0 ↔ ¬ o.analysis.registry.SomeGoesBack events ∧ ¬ refused
  /-- The report has the same exit code. -/
  reported : (Report.ofOutcome o).exitCode = o.exitCode
  /-- The report denies consistency exactly if some server goes back. -/
  inconsistent : (Report.ofOutcome o).consistent = false ↔
    o.analysis.registry.SomeGoesBack events
  /-- The report has one summary for each decrease. -/
  violations :
    ((Report.ofOutcome o).violations.map fun v => (v.server, v.regression, v.location)).Perm
      (o.analysis.registry.ids.flatMap fun id =>
        (decreases (ownEvents id events)).map fun d => (id, d.1, d.2.location))

namespace Outcome

variable (o : Outcome)

theorem exitCode_eq_two_iff : o.exitCode = 2 ↔ o.consistent = false := by
  unfold exitCode
  cases o.consistent <;> cases o.isRejected <;> decide

theorem exitCode_eq_three_iff :
    o.exitCode = 3 ↔ o.consistent = true ∧ o.isRejected = true := by
  unfold exitCode
  cases o.consistent <;> cases o.isRejected <;> decide

theorem exitCode_eq_zero_iff :
    o.exitCode = 0 ↔ o.consistent = true ∧ o.isRejected = false := by
  unfold exitCode
  cases o.consistent <;> cases o.isRejected <;> decide

end Outcome

theorem Registry.ownEvents_filter_knows {r : Registry} {id : ServerId} (hid : id ∈ r.ids)
    (events : List Event) : ownEvents id (events.filter r.knows) = ownEvents id events := by
  rw [ownEvents, List.filter_filter]
  refine List.filter_congr fun e _ => ?_
  by_cases he : e.server = id
  · simp [r.knows_eq, he, hid]
  · simp [he]

section

variable {s : Settings} {inputs : RunInputs} {o : Outcome} {w w' : World}

/-- The model checker rejects the trace exactly if it is not left out and ends with a fault. -/
theorem Stages.isRejected_iff (stages : Stages s inputs w w' o) :
    o.isRejected = true ↔ inputs.skipCheck = false ∧ ∃ fault,
      (runChecker (m := Sandbox) s inputs.spec o.artifacts).run stages.written =
        (.error fault, w') := by
  have hverdict := stages.verdict_eq
  cases hskip : inputs.skipCheck with
  | true =>
    rw [if_pos hskip] at hverdict
    simp [Outcome.isRejected, hverdict.1]
  | false =>
    rw [if_neg (by simp [hskip])] at hverdict
    obtain ⟨v, hv, hrun⟩ := hverdict
    rw [Outcome.isRejected, hv, hrun]
    cases v with
    | error fault => exact ⟨fun _ => ⟨rfl, fault, rfl⟩, fun _ => rfl⟩
    | ok verdict =>
      constructor
      · intro h
        cases h
      · rintro ⟨-, fault, h⟩
        cases h

/-- The violations of a run are the decreases of the servers in the timeline. -/
theorem Stages.violations_perm (stages : Stages s inputs w w' o) :
    (o.analysis.ledger.violations.map fun v => (v.server, v.regression, v.event)).Perm
      (o.analysis.registry.ids.flatMap fun id =>
        (decreases (ownEvents id (timeline s.marker stages.files))).map fun d =>
          (id, d.1, d.2)) := by
  obtain ⟨-, -, hreplay, hledger⟩ := stages.analysed
  rw [streamOf_reportsOf] at hreplay
  rw [Replay.run_eq_ofEvents fun e he => (List.mem_filter.1 he).2] at hreplay
  have hviolations : o.analysis.ledger.violations = o.analysis.replay.violations.toList := by
    rw [hledger]
    rfl
  rw [hviolations, ← Except.ok.inj hreplay]
  refine (Replay.violations_perm_decreases ..).trans (List.Perm.of_eq ?_)
  refine List.flatMap_congr fun id hid => ?_
  rw [Registry.ownEvents_filter_knows hid]

theorem Stages.consistent_iff (stages : Stages s inputs w w' o) :
    o.consistent = true ↔
      ¬ o.analysis.registry.SomeGoesBack (timeline s.marker stages.files) := by
  have hperm := stages.violations_perm
  rw [Outcome.consistent, Ledger.consistent, List.isEmpty_iff,
    ← List.map_eq_nil_iff (f := fun v : Violation => (v.server, v.regression, v.event))]
  constructor
  · rintro hnil ⟨id, hid, hback⟩
    rw [hnil] at hperm
    have hnone := List.flatMap_eq_nil_iff.1 hperm.symm.eq_nil id hid
    exact decreases_eq_nil_iff.1 (List.map_eq_nil_iff.1 hnone) hback
  · intro hsteady
    have hnone : ∀ id ∈ o.analysis.registry.ids,
        decreases (ownEvents id (timeline s.marker stages.files)) = [] := fun id hid =>
      decreases_eq_nil_iff.2 fun hback => hsteady ⟨id, hid, hback⟩
    refine List.Perm.eq_nil (hperm.trans (List.Perm.of_eq (List.flatMap_eq_nil_iff.2 ?_)))
    intro id hid
    rw [hnone id hid, List.map_nil]

/-- **The exit code is the verdict on the logs.**  If a run ends with an outcome, its log files were
found, and it judges their events in the order of time, then of the files, then of the lines.  The
exit code is `2` exactly if some server of the registry goes back in slot or ballot from one of its
events to the next, or from `0` and `0` to the first; otherwise it is `3` exactly if the model
checker was not to be left out and gave no favourable verdict; and otherwise `0`.  The report says
the same, with one summary for each decrease. -/
theorem exists_judges_of_run (h : (run (m := Sandbox) s inputs).run.run w = (.ok o, w')) :
    ∃ stages : Stages s inputs w w' o,
      registryFor s.serverIds (timeline s.marker stages.files) = .ok o.analysis.registry ∧
      (timeline s.marker stages.files).Perm (writtenEvents s.marker stages.files) ∧
      (timeline s.marker stages.files).Pairwise Event.ComesBefore ∧
      o.Judges (timeline s.marker stages.files) (inputs.skipCheck = false ∧ ∃ fault,
        (runChecker (m := Sandbox) s inputs.spec o.artifacts).run stages.written =
          (.error fault, w')) := by
  obtain ⟨stages⟩ := nonempty_stages_of_run h
  have hregistry := stages.analysed.registry
  rw [streamOf_reportsOf] at hregistry
  refine ⟨stages, hregistry, inTimeOrder_perm _, pairwise_timeline _ _, ?_⟩
  have hconsistent := stages.consistent_iff
  have hrejected := stages.isRejected_iff
  have hback : o.consistent = false ↔
      o.analysis.registry.SomeGoesBack (timeline s.marker stages.files) := by
    rw [← Bool.not_eq_true, hconsistent, not_not]
  refine ⟨?_, ?_, ?_, rfl, hback, ?_⟩
  · rw [o.exitCode_eq_two_iff, hback]
  · rw [o.exitCode_eq_three_iff, hconsistent, hrejected]
  · rw [o.exitCode_eq_zero_iff, hconsistent, ← Bool.not_eq_true, hrejected]
  · -- the report gives the place of an event and not the event itself
    have hplaces := stages.violations_perm.map fun v => (v.1, v.2.1, v.2.2.location)
    simpa [Report.ofOutcome, Violation.summary, List.map_flatMap, Function.comp_def] using hplaces

theorem exists_judges_of_run_mixedWorld :
    ∃ o w', (run (m := Sandbox) mixedSettings mixedInputs).run.run mixedWorld = (.ok o, w') ∧
      o.exitCode = 2 ∧ ∃ stages : Stages mixedSettings mixedInputs mixedWorld w' o,
        registryFor mixedSettings.serverIds (timeline mixedSettings.marker stages.files) =
          .ok o.analysis.registry ∧
        (timeline mixedSettings.marker stages.files).Perm
          (writtenEvents mixedSettings.marker stages.files) ∧
        (timeline mixedSettings.marker stages.files).Pairwise Event.ComesBefore ∧
        o.Judges (timeline mixedSettings.marker stages.files)
          (mixedInputs.skipCheck = false ∧ ∃ fault,
            (runChecker (m := Sandbox) mixedSettings mixedInputs.spec o.artifacts).run
              stages.written = (.error fault, w')) := by
  obtain ⟨o, w', hrun, -, hviolations, -⟩ := exists_outcome_mixedWorld
  have hbackward : o.exitCode = 2 := by
    rw [o.exitCode_eq_two_iff, Outcome.consistent, Ledger.consistent, List.isEmpty_eq_false_iff,
      ← List.length_pos_iff, hviolations]
    exact Nat.one_pos
  exact ⟨o, w', hrun, hbackward, exists_judges_of_run hrun⟩

end

end ReplicaTrace
