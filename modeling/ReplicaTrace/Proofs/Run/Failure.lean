import ReplicaTrace.Proofs.Run.Launch

/-!
# Runs that fail

Up to the writing of its files a run only looks at the host, and after it nothing can fail any more:
what the model checker says, or that it cannot be started, is part of the outcome.  A run that ends
with an error has therefore left no trace, unless the error is that of a file or directory that
could not be written.

The host is any one with a state of its own.  What there is to be seen of that state is given by a
view of it, such as the disk and the programs that were started.

* `Host.LooksOnly` : looking at files changes nothing that is seen.
* `FailsOnly` : all errors of a program are of one kind.
* `SafeUnless` : errors of any other kind come before all changes.
* `unchanged_of_run_error` : runs that fail.
-/

namespace ReplicaTrace

variable {σ ρ : Type} {view : σ → ρ}

/-- Looking at files changes nothing that is seen of the host's state. -/
structure Host.LooksOnly [Host (StateM σ)] (view : σ → ρ) : Prop where
  /-- Reading a file changes nothing. -/
  readFile : ∀ (p : Path) (w : σ), view ((Host.readFile p : StateM σ _).run w).2 = view w
  /-- Asking for a file changes nothing. -/
  isFile : ∀ (p : Path) (w : σ), view ((Host.isFile p : StateM σ _).run w).2 = view w

/-- The error is that of a file or directory that could not be written. -/
def RunError.IsWriteFault (e : RunError) : Prop :=
  ∃ path reason, e = .artifacts (.notWritten path reason)

/-! ### Programs and what is seen of them -/

section

variable {ε ε' α β : Type} {kind : ε → Prop}

/-- Whatever becomes of the program, it changes nothing that is seen. -/
def KeepsView (view : σ → ρ) (x : StateM σ α) : Prop :=
  ∀ w, view (x.run w).2 = view w

/-- All errors of the program are of one kind. -/
def FailsOnly (kind : ε → Prop) (x : ExceptT ε (StateM σ) α) : Prop :=
  ∀ w e w', x.run.run w = (.error e, w') → kind e

/-- Where the program fails with an error that is not of the kind, it has changed nothing that is
seen. -/
def SafeUnless (view : σ → ρ) (kind : ε → Prop) (x : ExceptT ε (StateM σ) α) : Prop :=
  ∀ w e w', x.run.run w = (.error e, w') → ¬ kind e → view w' = view w

theorem KeepsView.bind {x : StateM σ α} {f : α → StateM σ β} (hx : KeepsView view x)
    (hf : ∀ a, KeepsView view (f a)) : KeepsView view (x >>= f) := fun w =>
  (hf (x.run w).1 (x.run w).2).trans (hx w)

theorem keepsView_pure (a : α) : KeepsView view (pure a : StateM σ α) := fun _ => rfl

theorem KeepsView.mapM {f : α → StateM σ β} (h : ∀ a, KeepsView view (f a)) (as : List α) :
    KeepsView view (as.mapM f) := by
  induction as with
  | nil => exact keepsView_pure []
  | cons a as ih =>
    rw [List.mapM_cons]
    exact (h a).bind fun b => ih.bind fun bs => keepsView_pure (b :: bs)

theorem FailsOnly.bind {x : ExceptT ε (StateM σ) α} {f : α → ExceptT ε (StateM σ) β}
    (hx : FailsOnly kind x) (hf : ∀ a, FailsOnly kind (f a)) : FailsOnly kind (x >>= f) := by
  intro w e w' h
  rcases cases_of_bind h with ⟨_, hfault, hfirst⟩ | ⟨a, w₁, -, hrest⟩
  · obtain rfl := Except.error.inj hfault
    exact hx w e w' hfirst
  · exact hf a w₁ e w' hrest

theorem failsOnly_lift (x : StateM σ α) : FailsOnly kind (ExceptT.lift x) := fun _ _ _ h =>
  nomatch congrArg Prod.fst h

theorem failsOnly_pure (a : α) : FailsOnly kind (pure a : ExceptT ε (StateM σ) α) := fun _ _ _ h =>
  nomatch congrArg Prod.fst h

theorem FailsOnly.adapt {kind' : ε' → Prop} {f : ε → ε'} {x : ExceptT ε (StateM σ) α}
    (hx : FailsOnly kind x) (hf : ∀ e, kind e → kind' (f e)) : FailsOnly kind' (x.adapt f) := by
  intro w e' w' h
  rw [run_adapt] at h
  rcases hrun : x.run.run w with ⟨e | a, w₁⟩
  · rw [hrun] at h
    obtain rfl := Except.error.inj (Prod.mk.inj h).1
    exact hf e (hx w e w₁ hrun)
  · rw [hrun] at h
    cases h

/-- A step that passes on what a computation gives fails with its errors only. -/
theorem failsOnly_mapError {f : ε → ε'} {kind : ε' → Prop} (hf : ∀ e, kind (f e))
    (x : Except ε α) :
    FailsOnly kind (ExceptT.mk (pure (x.mapError f)) : ExceptT ε' (StateM σ) α) := by
  intro w e w' h
  obtain ⟨e', -, rfl⟩ := mapError_eq_error_iff.1 (Prod.mk.inj h).1
  exact hf e'

/-- Where a program fails with an error that is not its first step's, that step has succeeded. -/
theorem FailsOnly.exists_of_bind {x : ExceptT ε (StateM σ) α} {f : α → ExceptT ε (StateM σ) β}
    {w w' : σ} {e : ε} (hx : FailsOnly kind x) (h : (x >>= f).run.run w = (.error e, w'))
    (he : ¬ kind e) :
    ∃ a w₁, x.run.run w = (.ok a, w₁) ∧ (f a).run.run w₁ = (.error e, w') := by
  rcases cases_of_bind h with ⟨_, hfault, hfirst⟩ | hrest
  · obtain rfl := Except.error.inj hfault
    exact absurd (hx w e w' hfirst) he
  · exact hrest

theorem FailsOnly.safeUnless {x : ExceptT ε (StateM σ) α} (h : FailsOnly kind x) :
    SafeUnless view kind x := fun w e w' hrun hkind =>
  absurd (h w e w' hrun) hkind

/-- **One step more**: a program stays safe if nothing that is seen changes before it. -/
theorem KeepsView.bind_safeUnless {x : ExceptT ε (StateM σ) α} {f : α → ExceptT ε (StateM σ) β}
    (hx : KeepsView view x.run) (hf : ∀ a, SafeUnless view kind (f a)) :
    SafeUnless view kind (x >>= f) := by
  intro w e w' h hkind
  have hview := hx w
  rcases cases_of_bind h with ⟨_, -, hfirst⟩ | ⟨a, w₁, hfirst, hrest⟩
  · rwa [hfirst] at hview
  · rw [hfirst] at hview
    exact (hf a w₁ e w' hrest hkind).trans hview

end

/-! ### The stages of a run -/

theorem failsOnly_attempt (path : Path) (act : StateM σ (Except OsError Unit)) :
    FailsOnly (fun e => ∃ path reason, e = ArtifactError.notWritten path reason)
      (Artifacts.attempt path act) := by
  refine (failsOnly_lift act).bind fun result => ?_
  cases result with
  | error reason =>
    intro w e w' h
    exact ⟨path, reason, (Except.error.inj (Prod.mk.inj h).1).symm⟩
  | ok => exact failsOnly_pure ()

variable [Host (StateM σ)]

/-- Writing the files fails only where one of them, or their directory, could not be written. -/
theorem failsOnly_writeTo (a : Artifacts) (dir : Path) :
    FailsOnly (fun e => ∃ path reason, e = ArtifactError.notWritten path reason)
      (a.writeTo (m := StateM σ) dir) :=
  (failsOnly_attempt _ _).bind fun _ => (failsOnly_attempt _ _).bind fun _ =>
    (failsOnly_attempt _ _).bind fun _ => failsOnly_pure _

/-- Once the files can be made, a run fails only where one of them could not be written. -/
theorem failsOnly_finish (s : Settings) (inputs : RunInputs) (analysis : Analysis)
    (artifacts : Artifacts) :
    FailsOnly (σ := σ) RunError.IsWriteFault (do
      let paths ← (artifacts.writeTo s.outputDir).adapt .artifacts
      let verdict ←
        if inputs.skipCheck then pure none
        else some <$> ExceptT.lift (runChecker s inputs.spec paths)
      return Outcome.mk analysis paths verdict) := by
  refine FailsOnly.bind ?_ fun paths => ?_
  · refine (failsOnly_writeTo artifacts s.outputDir).adapt ?_
    rintro _ ⟨path, reason, rfl⟩
    exact ⟨path, reason, rfl⟩
  · dsimp only
    split
    · exact (failsOnly_pure none).bind fun verdict => failsOnly_pure _
    · refine FailsOnly.bind ?_ fun verdict => failsOnly_pure _
      exact (failsOnly_lift _).bind fun verdict => failsOnly_pure (some verdict)

theorem keepsView_readSources (h : Host.LooksOnly view) (marker : String) (logs : List Path) :
    KeepsView view (readSources (m := StateM σ) marker logs) := by
  refine KeepsView.bind (KeepsView.mapM (fun x => ?_) _) fun arrivals => keepsView_pure _
  refine KeepsView.bind (h.readFile x.1) fun data => ?_
  cases data <;> exact keepsView_pure _

/-- Everything that can fail without the disk comes before the first change. -/
theorem safeUnless_run (h : Host.LooksOnly view) (s : Settings) (inputs : RunInputs) :
    SafeUnless view RunError.IsWriteFault (run (m := StateM σ) s inputs) := by
  unfold run
  refine KeepsView.bind_safeUnless (h.isFile inputs.spec) fun found => ?_
  cases found with
  | false => exact fun w e w' hthrow _ => congrArg view (Prod.mk.inj hthrow).2.symm
  | true =>
    refine KeepsView.bind_safeUnless (keepsView_pure _) fun specModule => ?_
    refine KeepsView.bind_safeUnless (keepsView_readSources h s.marker inputs.logs) fun reports => ?_
    refine KeepsView.bind_safeUnless (keepsView_pure _) fun analysis => ?_
    refine KeepsView.bind_safeUnless (keepsView_pure _) fun artifacts => ?_
    -- from here on the disk may change, and only writing to it fails
    exact (failsOnly_finish s inputs analysis artifacts).safeUnless

/-- **Runs that fail** leave no trace.  If looking at files changes nothing that is seen of a host,
and a run there ends with an error other than that of a file or directory that could not be
written, all that is seen of the host is as before. -/
theorem unchanged_of_run_error (h : Host.LooksOnly view) {s : Settings} {inputs : RunInputs}
    {w w' : σ} {e : RunError} (hrun : (run (m := StateM σ) s inputs).run.run w = (.error e, w'))
    (hfault : ¬ e.IsWriteFault) : view w' = view w :=
  safeUnless_run h s inputs w e w' hrun hfault

/-- What there is to be seen of a world: the disk and the programs that were started. -/
def World.seen (w : World) : Disk × List Started :=
  (w.disk, w.started)

theorem looksOnly_seen : Host.LooksOnly World.seen :=
  ⟨fun _ _ => rfl, fun _ _ => rfl⟩

/-- A log file that is traced, and a specification with the name of the trace module. -/
def clashingWorld : World :=
  { outsideWorld with disk := outsideWorld.disk.put ["w", "Trace.tla"] (.file []) }

/-- The log file is given with that specification. -/
def clashingInputs : RunInputs :=
  { outsideInputs with spec := ⟨"Trace.tla"⟩ }

/-- The run goes through all stages before its files are written. -/
theorem exists_error_clashingWorld :
    ∃ w', (run (m := Sandbox) outsideSettings clashingInputs).run.run clashingWorld =
      (.error (.artifacts (.moduleClash "Trace")), w') := by
  have hcomputed : (match ((run (m := Sandbox) outsideSettings clashingInputs).run.run
      clashingWorld).1 with | .error e => some e | .ok _ => none) =
      some (.artifacts (.moduleClash "Trace")) := by
    simp only [run, readSources, gather, readSource, SourceReport.ofData,
      mergeSort_notAfter_eq_insertionSort, restoreOrder_eq, inTimeOrder_eq_insertionSort]
    decide +kernel
  rcases hrun : (run (m := Sandbox) outsideSettings clashingInputs).run.run clashingWorld with
    ⟨e | o, w'⟩
  · rw [hrun] at hcomputed
    obtain rfl := Option.some.inj hcomputed
    exact ⟨w', rfl⟩
  · rw [hrun] at hcomputed
    cases hcomputed

theorem unchanged_of_run_error_clashingWorld :
    Host.LooksOnly World.seen ∧
      ∃ e w', (run (m := Sandbox) outsideSettings clashingInputs).run.run clashingWorld =
          (.error e, w') ∧
        e = .artifacts (.moduleClash "Trace") ∧ ¬ e.IsWriteFault ∧
        (w'.disk, w'.started) = (clashingWorld.disk, clashingWorld.started) := by
  obtain ⟨w', hrun⟩ := exists_error_clashingWorld
  have hfault : ¬ (RunError.artifacts (.moduleClash "Trace")).IsWriteFault := by
    rintro ⟨path, reason, h⟩
    cases h
  exact ⟨looksOnly_seen, _, w', hrun, rfl, hfault,
    unchanged_of_run_error looksOnly_seen hrun hfault⟩

end ReplicaTrace
