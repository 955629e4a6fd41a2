import ReplicaTrace.Proofs.Run.Accounts
import ReplicaTrace.Proofs.Run.Failure
import ReplicaTrace.Proofs.Server.Discovery

/-!
# Which events reach the replay

The registry and the stream fit each other.  If no servers are given, the registry lists the servers
of the stream, so that it is there whenever there are events, and it knows all of them; if servers
are given, it lists these, and the events of others are left out before the replay.  The replay
therefore never meets a server that it does not know, and the only fault of a registry is an id that
was given twice.

* `knows_of_registryFor_nil` : a registry that was discovered knows all events of its stream.
* `liesWithInput_of_analyse` : all ways in which an analysis fails.
* `Admission` : the events that are replayed, for given servers or for none.
* `registryFits_of_run` : all of it for a run.
-/

namespace ReplicaTrace

variable {servers : List ServerId} {stream : List Event} {reports : List SourceReport}
  {r : Registry} {a : Analysis}

/-! ### The registry for a stream -/

/-- Where there are events, only given servers make a faulty registry, by a repeated id. -/
theorem fault_of_registryFor {e : RegistryError} (hstream : stream ≠ [])
    (h : registryFor servers stream = .error e) :
    servers ≠ [] ∧ ∃ id, firstRepeat [] servers = some id ∧ e = .duplicate id := by
  unfold registryFor at h
  by_cases hnil : servers = []
  · obtain ⟨r, hr, -⟩ := Registry.exists_discover hstream
    rw [if_pos (List.isEmpty_iff.2 hnil), hr] at h
    cases h
  · rw [if_neg fun hempty => hnil (List.isEmpty_iff.1 hempty)] at h
    rcases Registry.ofList?_eq_error_iff.1 h with ⟨hempty, -⟩ | hduplicate
    · exact absurd hempty hnil
    · exact hduplicate

/-- A registry that was discovered knows all events of its stream. -/
theorem knows_of_registryFor_nil (h : registryFor [] stream = .ok r) {e : Event} (he : e ∈ stream) :
    r.knows e = true := by
  have hmem : e.server ∈ r.ids :=
    (Registry.mem_ids_of_discover h e.server).2 (List.mem_map_of_mem he)
  rw [r.knows_eq]
  exact decide_eq_true hmem

theorem ids_of_registryFor (hservers : servers ≠ []) (h : registryFor servers stream = .ok r) :
    r.ids = servers := by
  unfold registryFor at h
  rw [if_neg fun hempty => hservers (List.isEmpty_iff.1 hempty)] at h
  exact Registry.ids_of_ofList? h

/-! ### The analysis -/

/-- The fault lies with the input: there are no events of the servers, or an id is given twice. -/
def AnalysisError.LiesWithInput (servers : List ServerId) (stream : List Event)
    (fault : AnalysisError) : Prop :=
  (∃ sources, fault = .noEvents sources ∧ ∀ e ∈ stream, servers ≠ [] ∧ e.server ∉ servers) ∨
    servers ≠ [] ∧ ∃ id, firstRepeat [] servers = some id ∧ fault = .badRegistry (.duplicate id)

/-- An event that the registry does not know is of a server that is not among the given ones. -/
theorem not_mem_of_not_knows (hregistry : registryFor servers stream = .ok r) {e : Event}
    (he : e ∈ stream) (hunknown : r.knows e = false) : servers ≠ [] ∧ e.server ∉ servers := by
  have hservers : servers ≠ [] := by
    rintro rfl
    cases (knows_of_registryFor_nil hregistry he).symm.trans hunknown
  refine ⟨hservers, ?_⟩
  rw [← ids_of_registryFor hservers hregistry]
  rw [r.knows_eq] at hunknown
  exact of_decide_eq_false hunknown

/-- **All ways in which an analysis fails** lie with the input; the replay never fails. -/
theorem liesWithInput_of_analyse {fault : AnalysisError}
    (h : analyse servers reports = .error fault) :
    fault.LiesWithInput servers (streamOf reports) := by
  unfold analyse at h
  dsimp only at h
  rw [← streamOf] at h
  split at h
  · next hempty =>
    obtain rfl := Except.error.inj h
    refine .inl ⟨_, rfl, ?_⟩
    simp [List.isEmpty_iff.1 hempty]
  · next hstream =>
    have hne : streamOf reports ≠ [] := fun hnil => hstream (List.isEmpty_iff.2 hnil)
    rcases except_bind_eq_error_iff.1 h with hregistry | ⟨r, hregistry, h⟩
    · obtain ⟨e, he, rfl⟩ := mapError_eq_error_iff.1 hregistry
      obtain ⟨hservers, id, hid, rfl⟩ := fault_of_registryFor hne he
      exact .inr ⟨hservers, id, hid, rfl⟩
    · split at h
      · next hknown =>
        obtain rfl := Except.error.inj h
        refine .inl ⟨_, rfl, ?_⟩
        intro e he
        have hunknown := List.filter_eq_nil_iff.1 (List.isEmpty_iff.1 hknown) e he
        exact not_mem_of_not_knows (mapError_eq_ok_iff.1 hregistry) he
          (Bool.eq_false_iff.2 hunknown)
      · -- what the registry knows is replayed
        have hreplay : ∀ e ∈ (streamOf reports).filter r.knows, r.knows e = true := fun _ he =>
          (List.mem_filter.1 he).2
        rw [Replay.run_eq_ofEvents hreplay] at h
        cases h

/-- **What of a stream is replayed** for given servers, or for none. -/
structure Admission (servers : List ServerId) (stream : List Event) (a : Analysis) : Prop where
  /-- Without given servers all events are replayed, and none is left out for its server. -/
  discovered : servers = [] → Replay.run a.registry stream = .ok a.replay ∧
    a.ledger.merged = stream.length ∧ a.ledger.tally.unknownServer = 0
  /-- Otherwise the events of the given servers are replayed in their order, and all others are
  counted as left out. -/
  given : servers ≠ [] → a.registry.ids = servers ∧
    Replay.run a.registry (stream.filter fun e => e.server ∈ servers) = .ok a.replay ∧
    a.ledger.merged = (stream.filter fun e => e.server ∈ servers).length ∧
    a.ledger.tally.unknownServer = (stream.filter fun e => e.server ∉ servers).length

variable {marker : String} {files : List LogFile}

theorem Analysed.admission (h : Analysed servers (reportsOf marker files) a) :
    Admission servers (streamOf (reportsOf marker files)) a := by
  have hregistry := h.registry
  have hreplay := h.replay
  have hmerged : a.ledger.merged =
      ((streamOf (reportsOf marker files)).filter a.registry.knows).length := by
    rw [h.ledger]
    rfl
  have hunknown : a.ledger.tally.unknownServer =
      ((streamOf (reportsOf marker files)).filter (!a.registry.knows ·)).length := by
    rw [h.tally_eq, streamOf_reportsOf]
  generalize streamOf (reportsOf marker files) = stream at *
  constructor
  · rintro rfl
    have hall : ∀ e ∈ stream, a.registry.knows e = true := fun e he =>
      knows_of_registryFor_nil hregistry he
    rw [List.filter_eq_self.2 hall] at hreplay hmerged
    refine ⟨hreplay, hmerged, ?_⟩
    rw [hunknown, List.length_eq_zero_iff, List.filter_eq_nil_iff]
    intro e he
    simp [hall e he]
  · intro hservers
    have hids := ids_of_registryFor hservers hregistry
    simp only [Registry.knows_eq, hids, ← decide_not] at hreplay hmerged hunknown
    exact ⟨hids, hreplay, hmerged, hunknown⟩

/-! ### A run -/

/-- The error does not come from the analysis. -/
def RunError.IsElsewhere (e : RunError) : Prop :=
  ∀ fault, e ≠ .analysis fault

theorem failsOnly_readSources (marker : String) (logs : List Path) :
    FailsOnly RunError.IsElsewhere (ExceptT.mk (readSources (m := Sandbox) marker logs)) := by
  intro w e w' h fault
  have hgather : gather (workerResults marker logs fun _ => w) = .error e :=
    congrArg Prod.fst ((run_readSources marker logs w).symm.trans h)
  obtain ⟨i, p, reason, -, -, rfl⟩ := error_mem_workerResults_iff.1 (mem_of_gather_eq_error hgather)
  exact RunError.noConfusion

section

variable {s : Settings} {inputs : RunInputs} {w w' : World}

/-- The fault of a run's analysis is that of the analysis of its files. -/
theorem exists_analyse_of_run_error {fault : AnalysisError}
    (h : (run (m := Sandbox) s inputs).run.run w = (.error (.analysis fault), w')) :
    ∃ files, FoundIn w inputs.logs files ∧
      analyse s.serverIds (reportsOf s.marker files) = .error fault := by
  have helsewhere : ¬ (RunError.analysis fault).IsElsewhere := fun h => h fault rfl
  have hartifacts : ∀ e, (RunError.artifacts e).IsElsewhere := fun _ _ => RunError.noConfusion
  unfold run at h
  obtain ⟨isFile, w₁, hstep, h⟩ := (failsOnly_lift _).exists_of_bind h helsewhere
  obtain ⟨-, rfl⟩ : _ ∧ w = w₁ := Prod.mk.inj hstep
  cases isFile with
  | false =>
    have hthrow := congrArg Prod.fst h
    cases hthrow
  | true =>
    simp only [if_true] at h
    obtain ⟨specModule, w₁, hstep, h⟩ :=
      (failsOnly_mapError hartifacts _).exists_of_bind h helsewhere
    obtain ⟨-, rfl⟩ := run_pure_eq_ok_iff.1 hstep
    obtain ⟨reports, w₁, hstep, h⟩ := (failsOnly_readSources _ _).exists_of_bind h helsewhere
    obtain ⟨rfl, files, hfound, rfl⟩ := exists_foundIn_of_readSources hstep
    refine ⟨files, hfound, ?_⟩
    rcases cases_of_bind h with ⟨_, he, hstep⟩ | ⟨analysis, w₁, hstep, h⟩
    · obtain rfl := Except.error.inj he
      obtain ⟨_, hfault, heq⟩ := mapError_eq_error_iff.1 (Prod.mk.inj hstep).1
      obtain rfl := RunError.analysis.inj heq
      exact hfault
    · -- what comes after the analysis fails in its own ways
      obtain ⟨artifacts, w₁, hstep, h⟩ :=
        (failsOnly_mapError hartifacts _).exists_of_bind h helsewhere
      obtain ⟨path, reason, hwrite⟩ := failsOnly_finish s inputs analysis artifacts _ _ _ h
      cases hwrite

end

/-- **What registry and stream are to each other** in a run from the world `w` with the result. -/
structure RegistryFits (s : Settings) (inputs : RunInputs) (w : World)
    (result : Except RunError Outcome) : Prop where
  /-- The replay meets no server that is not in the registry. -/
  no_unknown : ∀ fault, result ≠ .error (.analysis (.unknownServer fault))
  /-- The registry is never empty. -/
  not_empty : result ≠ .error (.analysis (.badRegistry .empty))
  /-- Without given servers none is listed twice. -/
  no_duplicate : s.servers = [] → ∀ id, result ≠ .error (.analysis (.badRegistry (.duplicate id)))
  /-- Where the analysis fails, the fault lies with the input. -/
  fault : ∀ fault, result = .error (.analysis fault) →
    ∃ files, FoundIn w inputs.logs files ∧
      fault.LiesWithInput s.serverIds (streamOf (reportsOf s.marker files))
  /-- Where it succeeds, the right events of the files are replayed, whatever fails later. -/
  admission : ∀ files, FoundIn w inputs.logs files → ∀ a,
    analyse s.serverIds (reportsOf s.marker files) = .ok a →
      Admission s.serverIds (streamOf (reportsOf s.marker files)) a
  /-- The outcome is that of replaying these events. -/
  outcome : ∀ o, result = .ok o →
    ∃ files, FoundIn w inputs.logs files ∧
      Admission s.serverIds (streamOf (reportsOf s.marker files)) o.analysis

/-- **The registry and the stream of a run always fit**, whatever the settings and the log files
are. -/
theorem registryFits_of_run {s : Settings} {inputs : RunInputs} {w w' : World}
    {result : Except RunError Outcome}
    (h : (run (m := Sandbox) s inputs).run.run w = (result, w')) :
    RegistryFits s inputs w result := by
  have hfault : ∀ fault, result = .error (.analysis fault) →
      ∃ files, FoundIn w inputs.logs files ∧
        fault.LiesWithInput s.serverIds (streamOf (reportsOf s.marker files)) := by
    rintro fault rfl
    obtain ⟨files, hfound, hanalyse⟩ := exists_analyse_of_run_error h
    exact ⟨files, hfound, liesWithInput_of_analyse hanalyse⟩
  constructor
  · intro fault hresult
    obtain ⟨_, -, ⟨_, hother, -⟩ | ⟨-, _, -, hother⟩⟩ := hfault _ hresult <;> cases hother
  · intro hresult
    obtain ⟨_, -, ⟨_, hother, -⟩ | ⟨-, _, -, hother⟩⟩ := hfault _ hresult <;> cases hother
  · intro hservers id hresult
    obtain ⟨_, -, ⟨_, hother, -⟩ | ⟨hgiven, -⟩⟩ := hfault _ hresult
    · cases hother
    · exact hgiven (List.map_eq_nil_iff.2 hservers)
  · exact hfault
  · intro files _ a ha
    exact (analysed_of_analyse ha).admission
  · rintro o rfl
    obtain ⟨stages⟩ := nonempty_stages_of_run h
    exact ⟨stages.files, stages.files_found, stages.analysed.admission⟩

theorem registryFits_of_run_mixedWorld :
    ∃ o w', (run (m := Sandbox) mixedSettings mixedInputs).run.run mixedWorld = (.ok o, w') ∧
      RegistryFits mixedSettings mixedInputs mixedWorld (.ok o) ∧ o.analysis.ledger.merged = 3 := by
  obtain ⟨o, w', hrun, hmerged, -⟩ := exists_outcome_mixedWorld
  exact ⟨o, w', hrun, registryFits_of_run hrun, hmerged⟩

end ReplicaTrace
