import ReplicaTrace.Checker.Basic
import ReplicaTrace.Host.Sandbox

/-!
# What programs do to a world

The programs that create directories and write files are put together from single steps, each of
which may fail and still have changed the world.  What a program does to the world is a relation
between the world in which it is started and the one that it leaves; if every step keeps to a
relation that steps may follow one after the other, the whole program does.

* `Along` : a program that keeps to a relation.
* `along_makeWays` : directories with those on the way to them.
* `Artifacts.along_writeTo` : the files of the trace.
* `Checker.Runner.run_check` : the model checker.
-/

namespace ReplicaTrace

/-- Changes of a world that may follow one after the other, or not happen at all. -/
structure Composes (R : World → World → Prop) : Prop where
  refl : ∀ w, R w w
  trans : ∀ {w w' w''}, R w w' → R w' w'' → R w w''

/-- The program leads from any world to a related one, whatever its result. -/
def Along {α : Type} (R : World → World → Prop) (x : Sandbox α) : Prop :=
  ∀ w : World, R w (x.run w).2

variable {R : World → World → Prop} {α β ε : Type}

theorem Composes.along_of_unchanged (hR : Composes R) {x : Sandbox α} (h : ∀ w, (x.run w).2 = w) :
    Along R x := by
  intro w
  rw [h]
  exact hR.refl w

theorem Along.bind {x : Sandbox α} {f : α → Sandbox β} (hx : Along R x) (hR : Composes R)
    (hf : ∀ a, Along R (f a)) : Along R (x >>= f) := by
  intro w
  rw [StateT.run_bind]
  exact hR.trans (hx w) (hf _ _)

/-- Programs that may fail, one after the other. -/
theorem Along.bindExcept {x : ExceptT ε Sandbox α} {f : α → ExceptT ε Sandbox β}
    (hx : Along R x.run) (hR : Composes R) (hf : ∀ a, Along R (f a).run) :
    Along R (x >>= f).run := by
  rw [ExceptT.run_bind]
  refine hx.bind hR fun result => ?_
  cases result with
  | error => exact hR.along_of_unchanged fun _ => rfl
  | ok a => exact hf a

theorem Composes.along_orPresent (hR : Composes R) (p : Path) (result : Except OsError Unit) :
    Along R (Host.orPresent p result) :=
  hR.along_of_unchanged fun _ => by cases result <;> rfl

/-- **Directories** with those on the way to them are created one by one. -/
theorem along_makeWays (hR : Composes R) (hdir : ∀ p, Along R (Host.makeDir p)) (ps : List Path) :
    Along R (Host.makeWays ps) := by
  induction ps with
  | nil => exact hR.along_of_unchanged fun _ => rfl
  | cons p ps ih =>
    refine (hdir p).bind hR fun result => ?_
    split
    · -- the directories on the way come first, then the directory once more
      refine ih.bind hR fun ways => ?_
      split
      · exact (hdir p).bind hR fun again => hR.along_orPresent p again
      · exact hR.along_of_unchanged fun _ => rfl
    · exact hR.along_orPresent p _

namespace Artifacts

theorem along_attempt (hR : Composes R) {act : Sandbox (Except OsError Unit)} (hact : Along R act)
    (p : Path) : Along R (attempt p act).run := by
  have hlift : Along R (ExceptT.run (monadLift act : ExceptT ArtifactError Sandbox _)) := by
    intro w
    exact hact w
  refine Along.bindExcept hlift hR fun result => ?_
  cases result <;> exact hR.along_of_unchanged fun _ => rfl

/-- **The files of the trace** are written by creating directories and writing two files. -/
theorem along_writeTo (hR : Composes R) (a : Artifacts) (dir : Path)
    (hdir : ∀ p, Along R (Host.makeDir p))
    (hfile : ∀ p ∈ [(a.paths dir).spec, (a.paths dir).config], ∀ content,
      Along R (Host.writeFile p content)) : Along R (a.writeTo (m := Sandbox) dir).run := by
  refine Along.bindExcept (along_attempt hR (along_makeWays hR hdir _) dir) hR fun _ => ?_
  refine Along.bindExcept (along_attempt hR (hfile _ (by simp) _) _) hR fun _ => ?_
  refine Along.bindExcept (along_attempt hR (hfile _ (by simp) _) _) hR fun _ => ?_
  exact hR.along_of_unchanged fun _ => rfl

end Artifacts

namespace Checker.Runner

variable {r : Runner} {w : World}

/-- What a check makes of the program that was to be started. -/
def conclude (r : Runner) : Launch → Except Error Verdict
  | .notStarted reason => .error (.notStarted r.java reason)
  | .stopped => .error (.timeout (r.limit.getD 0))
  | .ended code stdout stderr elapsed => judge code stdout stderr elapsed

/-- **A check** with an archive that is a file starts the program and does nothing else. -/
theorem run_check (artifacts : ArtifactPaths) (hjar : w.disk.isFile w.workingDir r.jar = true) :
    (r.check (m := Sandbox) artifacts).run w =
      (r.conclude (w.launch (r.command artifacts) r.limit).1,
        (w.launch (r.command artifacts) r.limit).2) := by
  have hfound : (Host.isFile r.jar : Sandbox Bool).run w = (true, w) := Prod.ext hjar rfl
  have hlaunch : (Host.launch (r.command artifacts) r.limit : Sandbox Launch).run w =
      w.launch (r.command artifacts) r.limit := rfl
  rw [check, StateT.run_bind, hfound]
  change ((Host.launch (r.command artifacts) r.limit >>= _ : Sandbox _).run w) = _
  rw [StateT.run_bind, hlaunch]
  rcases w.launch (r.command artifacts) r.limit with ⟨launch, w'⟩
  cases launch <;> rfl

end Checker.Runner

end ReplicaTrace
