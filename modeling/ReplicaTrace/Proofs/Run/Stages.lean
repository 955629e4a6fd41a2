import ReplicaTrace.Proofs.Run.Gathering

/-!
# The stages of a run

A run in a sandbox that ends with an outcome has gone through all its stages: the files were found
and read, their reports analysed, and what came out of that was written and checked.  This file
opens the run once; what is shown of outcomes elsewhere is shown of the stages.

* `cases_of_bind` : programs that may fail, one after the other.
* `Stages` : what the stages of a run gave.
* `nonempty_stages_of_run` : a run with an outcome went through the stages.
* `Analysed` : what the analysis of the reports gave.
* `analysed_of_analyse` : an analysis that succeeds.
-/

namespace ReplicaTrace

/-! ### Programs that may fail -/

section

variable {σ ε ε' α β : Type} {w w' : σ}

/-- Of two programs one after the other the first fails, or the second goes on from there. -/
theorem cases_of_bind {x : ExceptT ε (StateM σ) α} {f : α → ExceptT ε (StateM σ) β}
    {result : Except ε β} (h : (x >>= f).run.run w = (result, w')) :
    (∃ e, result = .error e ∧ x.run.run w = (.error e, w')) ∨
      ∃ a w₁, x.run.run w = (.ok a, w₁) ∧ (f a).run.run w₁ = (result, w') := by
  rw [ExceptT.run_bind, StateT.run_bind] at h
  rcases hx : x.run.run w with ⟨e | a, w₁⟩
  · rw [hx] at h
    obtain ⟨rfl, rfl⟩ := Prod.mk.inj h
    exact .inl ⟨e, rfl, rfl⟩
  · rw [hx] at h
    exact .inr ⟨a, w₁, rfl, h⟩

/-- If a program succeeds, its first step does, and the others from there. -/
theorem exists_of_bind_eq_ok {x : ExceptT ε (StateM σ) α} {f : α → ExceptT ε (StateM σ) β} {b : β}
    (h : (x >>= f).run.run w = (.ok b, w')) :
    ∃ a w₁, x.run.run w = (.ok a, w₁) ∧ (f a).run.run w₁ = (.ok b, w') :=
  (cases_of_bind h).resolve_left fun ⟨_, hfault, _⟩ => nomatch hfault

/-- A step that does not ask the host leaves the world alone. -/
theorem run_pure_eq_ok_iff {x : Except ε α} {a : α} :
    (ExceptT.mk (pure x) : ExceptT ε (StateM σ) α).run.run w = (.ok a, w') ↔ x = .ok a ∧ w = w' :=
  Prod.mk.injEq _ _ _ _ ▸ Iff.rfl

theorem run_adapt (f : ε → ε') (x : ExceptT ε (StateM σ) α) (w : σ) :
    (x.adapt f).run.run w = ((x.run.run w).1.mapError f, (x.run.run w).2) := rfl

theorem run_adapt_eq_ok_iff {f : ε → ε'} {x : ExceptT ε (StateM σ) α} {a : α} :
    (x.adapt f).run.run w = (.ok a, w') ↔ x.run.run w = (.ok a, w') := by
  rw [run_adapt, Prod.ext_iff, Prod.ext_iff]
  exact and_congr_left fun _ => mapError_eq_ok_iff

/-- Steps that leave the world alone are taken one by one. -/
theorem run_mapM_of_unchanged {f : α → StateM σ β} (h : ∀ a, ((f a).run w).2 = w) (as : List α) :
    (as.mapM f).run w = (as.map fun a => ((f a).run w).1, w) := by
  induction as with
  | nil => rfl
  | cons a as ih =>
    have hfirst : (f a).run w = (((f a).run w).1, w) := Prod.ext rfl (h a)
    rw [List.mapM_cons, StateT.run_bind, hfirst]
    change ((as.mapM f >>= fun bs => pure (((f a).run w).1 :: bs)).run w) = _
    rw [StateT.run_bind, ih]
    rfl

end

/-! ### Reading the files -/

/-- A log file with what it holds. -/
structure LogFile where
  /-- The name under which the file was given. -/
  location : String
  /-- The content. -/
  data : Bytes
deriving DecidableEq

/-- The files are what the paths lead to in a world. -/
def FoundIn (w : World) (logs : List Path) (files : List LogFile) : Prop :=
  List.Forall₂ (fun p f => f.location = p.text ∧ w.disk.read w.workingDir p = .ok f.data) logs files

/-- The report of the file at a place among the files. -/
def LogFile.report (marker : String) (rank : ℕ) (f : LogFile) : SourceReport :=
  .ofData marker ⟨rank, f.location⟩ f.data

/-- The reports of the files in their order. -/
def reportsOf (marker : String) (files : List LogFile) : List SourceReport :=
  files.mapIdx (LogFile.report marker)

section

variable {marker : String} {logs : List Path} {files : List LogFile} {w w' : World}
  {reports : List SourceReport}

theorem ranked_reportsOf (marker : String) (files : List LogFile) :
    Ranked (reportsOf marker files) := by
  intro i r hr
  rw [reportsOf, List.getElem?_mapIdx] at hr
  obtain ⟨f, -, rfl⟩ := Option.map_eq_some_iff.1 hr
  rfl

theorem exists_read_of_workerResult {p : Path} {rank : ℕ} {r : SourceReport}
    (h : workerResult marker w p rank = .ok r) :
    ∃ data, w.disk.read w.workingDir p = .ok data ∧
      r = LogFile.report marker rank ⟨p.text, data⟩ := by
  have hcontent : ((Host.readFile p : StateM World _).run w).1 = w.disk.read w.workingDir p := rfl
  rw [workerResult, run_readSource] at h
  dsimp only at h
  rw [hcontent] at h
  cases hread : w.disk.read w.workingDir p with
  | error reason =>
    rw [hread] at h
    cases h
  | ok data =>
    rw [hread] at h
    exact ⟨data, rfl, (Except.ok.inj h).symm⟩

/-- Reports of the files from a rank on are there only if the files are. -/
theorem exists_foundIn_of_mapIdx {k : ℕ}
    (h : logs.mapIdx (fun i p => workerResult marker w p (k + i)) = reports.map .ok) :
    ∃ files, FoundIn w logs files ∧
      reports = files.mapIdx fun i f => f.report marker (k + i) := by
  induction logs generalizing k reports with
  | nil =>
    obtain rfl := List.map_eq_nil_iff.1 h.symm
    exact ⟨[], .nil, rfl⟩
  | cons p logs ih =>
    rw [List.mapIdx_cons] at h
    obtain ⟨r, rest, rfl, hfirst, hrest⟩ := List.map_eq_cons_iff.1 h.symm
    obtain ⟨data, hread, rfl⟩ := exists_read_of_workerResult hfirst.symm
    simp only [← Nat.add_assoc, Nat.add_right_comm k _ 1] at hrest
    obtain ⟨files, hfound, rfl⟩ := ih hrest.symm
    refine ⟨⟨p.text, data⟩ :: files, .cons ⟨rfl, hread⟩ hfound, ?_⟩
    rw [List.mapIdx_cons]
    simp [Nat.add_assoc, Nat.add_comm 1]

/-- The files are read one after the other, and the world stays as it is. -/
theorem run_readSources (marker : String) (logs : List Path) (w : World) :
    (readSources (m := Sandbox) marker logs).run w =
      (gather (workerResults marker logs fun _ => w), w) := by
  unfold readSources workerResults
  rw [StateT.run_bind, run_mapM_of_unchanged fun x => by rw [run_readSource]; rfl,
    List.mapIdx_eq_zipIdx_map]
  rfl

/-- **Reading all files** succeeds only if every path leads to a file; the reports are those of the
files in their order, and the world stays as it is. -/
theorem exists_foundIn_of_readSources
    (h : (readSources (m := Sandbox) marker logs).run w = (.ok reports, w')) :
    w' = w ∧ ∃ files, FoundIn w logs files ∧ reports = reportsOf marker files := by
  rw [run_readSources] at h
  obtain ⟨hgather, rfl⟩ := Prod.mk.inj h
  obtain ⟨rs, hrs, rfl⟩ := gather_eq_ok_iff.1 hgather
  have hresults : logs.mapIdx (fun i p => workerResult marker w p (0 + i)) = rs.map .ok := by
    simpa [workerResults] using hrs
  obtain ⟨files, hfound, hreports⟩ := exists_foundIn_of_mapIdx hresults
  obtain rfl : rs = reportsOf marker files := by simpa [reportsOf] using hreports
  exact ⟨rfl, files, hfound, (ranked_reportsOf marker files).mergeSort_of_perm (.refl _)⟩

end

/-! ### Analysing the reports -/

/-- The events of all reports in one stream. -/
def streamOf (reports : List SourceReport) : List Event :=
  merge (reports.map SourceReport.events)

/-- **What the analysis of reports gave.**  The events of the registry's servers were replayed, and
the ledger has taken up the reports, the events of other servers and the replay, in this order. -/
structure Analysed (servers : List ServerId) (reports : List SourceReport) (a : Analysis) :
    Prop where
  /-- The registry is the one for the stream. -/
  registry : registryFor servers (streamOf reports) = .ok a.registry
  /-- Some event is of a server in the registry. -/
  known : (streamOf reports).filter a.registry.knows ≠ []
  /-- These events were replayed. -/
  replay : Replay.run a.registry ((streamOf reports).filter a.registry.knows) = .ok a.replay
  /-- The ledger tells of all that. -/
  ledger : a.ledger =
    (((streamOf reports).filter (!a.registry.knows ·)).foldl Ledger.skipUnknown
      (reports.foldl Ledger.absorb {})).close
        ((streamOf reports).filter a.registry.knows) a.replay

theorem analysed_of_analyse {servers : List ServerId} {reports : List SourceReport} {a : Analysis}
    (h : analyse servers reports = .ok a) : Analysed servers reports a := by
  unfold analyse at h
  dsimp only at h
  split at h
  · cases h
  · obtain ⟨registry, hregistry, h⟩ := except_bind_eq_ok_iff.1 h
    split at h
    · cases h
    · next hknown =>
      obtain ⟨replay, hreplay, h⟩ := except_bind_eq_ok_iff.1 h
      cases h
      exact ⟨mapError_eq_ok_iff.1 hregistry, fun hnil => hknown (List.isEmpty_iff.2 hnil),
        mapError_eq_ok_iff.1 hreplay, rfl⟩

/-! ### All stages -/

/-- **What the stages of a run gave** that led from the world `w` to the outcome `o` in the world
`w'`. -/
structure Stages (s : Settings) (inputs : RunInputs) (w w' : World) (o : Outcome) where
  /-- The name of the protocol's specification. -/
  specModule : String
  /-- The log files. -/
  files : List LogFile
  /-- The texts of the trace module and its configuration. -/
  artifacts : Artifacts
  /-- The world after they were written. -/
  written : World
  spec_isFile : w.disk.isFile w.workingDir inputs.spec = true
  spec_name : specModuleName inputs.spec = .ok specModule
  files_found : FoundIn w inputs.logs files
  analysed : Analysed s.serverIds (reportsOf s.marker files) o.analysis
  artifacts_eq : Artifacts.ofHistory o.analysis.replay.snapshots o.analysis.registry.ids specModule
    s.trace = .ok artifacts
  written_eq : (artifacts.writeTo (m := Sandbox) s.outputDir).run.run w = (.ok o.artifacts, written)
  verdict_eq : if inputs.skipCheck then o.verdict = none ∧ w' = written
    else ∃ v, o.verdict = some v ∧
      (runChecker (m := Sandbox) s inputs.spec o.artifacts).run written = (v, w')

theorem nonempty_stages_of_run {s : Settings} {inputs : RunInputs} {o : Outcome} {w w' : World}
    (h : (run (m := Sandbox) s inputs).run.run w = (.ok o, w')) :
    Nonempty (Stages s inputs w w' o) := by
  unfold run at h
  obtain ⟨isFile, w₁, hstep, h⟩ := exists_of_bind_eq_ok h
  obtain ⟨hfile, rfl⟩ : Except.ok (w.disk.isFile w.workingDir inputs.spec) = .ok isFile ∧ w = w₁ :=
    Prod.mk.inj hstep
  cases isFile with
  | false =>
    obtain ⟨_, _, hthrow, -⟩ := exists_of_bind_eq_ok h
    cases hthrow
  | true =>
    simp only [if_true] at h
    -- up to the writing of the files no stage changes the world
    obtain ⟨specModule, w₁, hstep, h⟩ := exists_of_bind_eq_ok h
    obtain ⟨hspec, rfl⟩ := run_pure_eq_ok_iff.1 hstep
    obtain ⟨reports, w₁, hstep, h⟩ := exists_of_bind_eq_ok h
    obtain ⟨rfl, files, hfound, rfl⟩ := exists_foundIn_of_readSources hstep
    obtain ⟨analysis, w₁, hstep, h⟩ := exists_of_bind_eq_ok h
    obtain ⟨hanalysis, rfl⟩ := run_pure_eq_ok_iff.1 hstep
    obtain ⟨artifacts, w₁, hstep, h⟩ := exists_of_bind_eq_ok h
    obtain ⟨hartifacts, rfl⟩ := run_pure_eq_ok_iff.1 hstep
    obtain ⟨paths, written, hwritten, h⟩ := exists_of_bind_eq_ok h
    have hstages : ∀ verdict : Option (Except Checker.Error Checker.Verdict),
        (if inputs.skipCheck then verdict = none ∧ w' = written
          else ∃ v, verdict = some v ∧
            (runChecker (m := Sandbox) s inputs.spec paths).run written = (v, w')) →
        Nonempty (Stages s inputs _ w' ⟨analysis, paths, verdict⟩) := fun verdict hverdict =>
      ⟨{ specModule, files, artifacts, written
         spec_isFile := Except.ok.inj hfile
         spec_name := mapError_eq_ok_iff.1 hspec
         files_found := hfound
         analysed := analysed_of_analyse (mapError_eq_ok_iff.1 hanalysis)
         artifacts_eq := mapError_eq_ok_iff.1 hartifacts
         written_eq := run_adapt_eq_ok_iff.1 hwritten
         verdict_eq := hverdict }⟩
    split at h
    · next hskip =>
      obtain ⟨hout, rfl⟩ : Except.ok ⟨analysis, paths, none⟩ = .ok o ∧ written = w' := Prod.mk.inj h
      obtain rfl := Except.ok.inj hout
      exact hstages none (by rw [if_pos hskip]; exact ⟨rfl, rfl⟩)
    · next hskip =>
      rcases hcheck : (runChecker (m := Sandbox) s inputs.spec paths).run written with ⟨v, w₂⟩
      have hstep : (Except.ok ⟨analysis, paths, some ((runChecker (m := Sandbox) s inputs.spec
          paths).run written).1⟩, ((runChecker (m := Sandbox) s inputs.spec paths).run written).2) =
          ((.ok o, w') : Except RunError Outcome × World) := h
      rw [hcheck] at hstep
      obtain ⟨hout, rfl⟩ := Prod.mk.inj hstep
      obtain rfl := Except.ok.inj hout
      exact hstages (some v) (by rw [if_neg hskip]; exact ⟨v, rfl, hcheck⟩)

end ReplicaTrace
