import ReplicaTrace.Proofs.Host.Programs
import ReplicaTrace.Proofs.Run.Launch
import ReplicaTrace.Proofs.Settings.Rules

/-!
# The specification is not written over

The files of the trace are called after the module, and no module is made that is called like the
specification.  The name of a specification is that of its file up to the last point: were the file
called like one of the two that are written, the names of the modules would be the same.  So the
specification has another file name, is nowhere the same file as one of the two, and is read after
they were written as it was before, in whatever directory they are.

That the file names differ holds of the paths as texts, whatever the disk.  That the files differ,
and that the specification is read as before, rests on what a `Disk` is: it has no links by which
one file has two names, and its names are told apart by case.

* `World.Spares` : a world that still has a file.
* `along_spares_makeDir`, `along_spares_writeFile` : the steps of writing.
* `spec_unharmed_of_ofHistory` : the specification is left as it is.
-/

namespace ReplicaTrace

/-! ### Changes that spare a file -/

/-- The second world has more on its disk, and still has the file. -/
structure World.Spares (place : Names) (content : Bytes) (w w' : World) : Prop where
  grows : w.Grows w'
  keeps : w.disk.lookup place = some (.file content) → w'.disk.lookup place = some (.file content)

section

variable {place : Names} {content : Bytes} {p : Path} {other : String}

theorem composes_spares : Composes (World.Spares place content) where
  refl w := ⟨.refl w, id⟩
  trans h h' := ⟨h.grows.trans h'.grows, h'.keeps ∘ h.keeps⟩

theorem along_spares_makeDir (p : Path) :
    Along (World.Spares place content) (Host.makeDir p) := by
  refine fun w => ⟨onlyAdds_makeDir p w, fun hplace => ?_⟩
  simp only [Host.makeDir, StateT.run]
  split
  · next hmade => exact Disk.lookup_of_makeDir hmade hplace
  · exact hplace

/-- Writing spares every file of another name. -/
theorem along_spares_writeFile (hname : p.fileName? = some other)
    (hother : place.getLast? ≠ some other) (written : Bytes) :
    Along (World.Spares place content) (Host.writeFile p written) := by
  intro w
  simp only [Host.writeFile, StateT.run]
  split
  · next hwrite =>
    obtain ⟨hextends, target, htarget, hlookup⟩ := Disk.resolve_of_write hwrite
    refine ⟨⟨hextends, rfl⟩, fun hplace => ?_⟩
    obtain ⟨dir, -, -, rfl, -⟩ := Disk.resolve_fileName htarget hname
    rw [hlookup, if_neg, hplace]
    rintro rfl
    exact hother List.getLast?_concat
  · exact composes_spares.refl w

end

/-! ### The specification -/

namespace Artifacts

variable {settings : TraceSettings} {spec : Path} {name file : String} {history : List Snapshot}
  {servers : List ServerId} {a : Artifacts}

theorem ne_moduleName_of_ofHistory (h : ofHistory history servers name settings = .ok a) :
    name ≠ settings.moduleName ∧ a.moduleName = settings.moduleName := by
  unfold ofHistory at h
  split at h
  · cases h
  · next hne =>
    obtain rfl := Except.ok.inj h
    exact ⟨hne, rfl⟩

theorem isExtension_tla : Path.IsExtension ".tla" := ⟨"tla".toList, rfl, by decide⟩

theorem isExtension_cfg : Path.IsExtension ".cfg" := ⟨"cfg".toList, rfl, by decide⟩

/-- An identifier with an ending is the name of a file. -/
theorem isEnding_append {ending : String} (h : isIdentifier name = true)
    (hending : Path.IsEnding ending) : Path.IsEnding (name ++ ending) := by
  rw [Path.IsEnding, String.toList_append, List.mem_append, List.length_append]
  refine ⟨?_, Nat.lt_add_left _ hending.2⟩
  rintro (hslash | hslash)
  · exact absurd (isIdentifierRest_of_mem h _ hslash) (by decide)
  · exact hending.1 hslash

/-- A file with another stem has another name. -/
theorem ne_append_of_stem_ne (hidentifier : isIdentifier name = true)
    (hstem : Path.stem file ≠ name) {ending : String} (hending : Path.IsExtension ending) :
    file ≠ name ++ ending := by
  rintro rfl
  refine hstem (Path.stem_append ?_ hending)
  intro hempty
  rw [hempty] at hidentifier
  exact absurd hidentifier (by decide)

/-- The two files are written without touching a file of another name. -/
theorem spares_of_writeTo {dir : Path} {place : Names} {content : Bytes} {w w' : World}
    {result : Except ArtifactError ArtifactPaths}
    (hothers : ∀ p ∈ [(a.paths dir).spec, (a.paths dir).config],
      ∃ other, p.fileName? = some other ∧ place.getLast? ≠ some other)
    (hrun : (a.writeTo (m := Sandbox) dir).run.run w = (result, w')) :
    World.Spares place content w w' := by
  have hwritten : Along (World.Spares place content) (a.writeTo (m := Sandbox) dir).run := by
    refine along_writeTo composes_spares a dir along_spares_makeDir fun p hp written => ?_
    obtain ⟨other, hname, hother⟩ := hothers p hp
    exact along_spares_writeFile hname hother written
  have hspares := hwritten w
  rwa [hrun] at hspares

/-- **The specification is left as it is** by the files of the trace.  Its file name is not one of
theirs, on whatever disk.  On a disk as `Disk` has it, without links and with names that are told
apart by case, its path does not lead where one of theirs leads, and what is read from it is the
same after they were written to any directory, even if that has failed on the way. -/
theorem spec_unharmed_of_ofHistory (hsettings : settings.fault? = none)
    (hname : specModuleName spec = .ok name)
    (ha : ofHistory history servers name settings = .ok a) :
    ∃ file, spec.fileName? = some file ∧ file ≠ settings.moduleName ++ ".tla" ∧
      file ≠ settings.moduleName ++ ".cfg" ∧
      ∀ dir : Path,
        (a.paths dir).spec.fileName? = some (settings.moduleName ++ ".tla") ∧
        (a.paths dir).config.fileName? = some (settings.moduleName ++ ".cfg") ∧
        (∀ p ∈ [(a.paths dir).spec, (a.paths dir).config],
          ∀ (d : Disk) (start start' place : Names),
            d.resolve start spec = .ok place → d.resolve start' p ≠ .ok place) ∧
        ∀ (w w' : World) (result : Except ArtifactError ArtifactPaths) (content : Bytes),
          (a.writeTo (m := Sandbox) dir).run.run w = (result, w') →
          w.disk.read w.workingDir spec = .ok content →
            w'.disk.read w'.workingDir spec = .ok content := by
  obtain ⟨file, hfile, rfl⟩ := exists_fileName_of_specModuleName hname
  obtain ⟨hne, hmodule⟩ := ne_moduleName_of_ofHistory ha
  have hidentifier := (TraceSettings.fault?_eq_none_iff.1 hsettings).moduleName
  have htla := ne_append_of_stem_ne hidentifier hne isExtension_tla
  have hcfg := ne_append_of_stem_ne hidentifier hne isExtension_cfg
  refine ⟨file, hfile, htla, hcfg, fun dir => ?_⟩
  have hspecName : (a.paths dir).spec.fileName? = some (settings.moduleName ++ ".tla") := by
    rw [← hmodule]
    exact Path.fileName?_join (hmodule ▸ isEnding_append hidentifier isEnding_tla) dir
  have hconfigName : (a.paths dir).config.fileName? = some (settings.moduleName ++ ".cfg") := by
    rw [← hmodule]
    exact Path.fileName?_join (hmodule ▸ isEnding_append hidentifier isEnding_cfg) dir
  have hothers : ∀ p ∈ [(a.paths dir).spec, (a.paths dir).config],
      ∃ other, p.fileName? = some other ∧ file ≠ other := by
    intro p hp
    rcases List.mem_pair.1 hp with rfl | rfl
    · exact ⟨_, hspecName, htla⟩
    · exact ⟨_, hconfigName, hcfg⟩
  refine ⟨hspecName, hconfigName, fun p hp d start start' place hplace => ?_,
    fun w w' result content hrun hread => ?_⟩
  · obtain ⟨other, hother, hne⟩ := hothers p hp
    exact Disk.resolve_ne_of_fileName? hfile hother hne hplace
  · obtain ⟨place, hplace, hlookup⟩ := Disk.exists_place_of_read hread
    obtain ⟨folder, -, -, hlast, -⟩ := Disk.resolve_fileName hplace hfile
    have hspares : World.Spares place content w w' := by
      refine spares_of_writeTo (fun p hp => ?_) hrun
      obtain ⟨other, hother, hne⟩ := hothers p hp
      refine ⟨other, hother, fun hsame => hne ?_⟩
      rw [hlast, List.getLast?_concat] at hsame
      exact Option.some.inj hsame
    rw [hspares.grows.workingDir_eq]
    exact Disk.read_of_resolve (hspares.grows.disk.resolve hplace) (hspares.keeps hlookup)

/-- A specification in the directory to which the files of the trace go. -/
def besideSpec : Path :=
  ⟨"specs/Trace.old.tla"⟩

/-- The world with that specification. -/
def besideWorld : World where
  disk := ⟨[(["specs"], .directory), (["specs", "Trace.old.tla"], .file [0x2D])]⟩
  workingDir := []
  environment := []
  programs := []
  started := []

theorem spec_unharmed_besideWorld :
    ({} : TraceSettings).fault? = none ∧ specModuleName besideSpec = .ok "Trace.old" ∧
      ∃ a, ofHistory [] [] "Trace.old" {} = .ok a ∧
        besideSpec.fileName? ≠ (a.paths ⟨"specs"⟩).spec.fileName? ∧
        ∃ result w', (a.writeTo (m := Sandbox) ⟨"specs"⟩).run.run besideWorld = (result, w') ∧
          w'.disk.read w'.workingDir besideSpec = .ok [0x2D] := by
  have hfault : ({} : TraceSettings).fault? = none := by decide
  have hname : specModuleName besideSpec = .ok "Trace.old" := by decide +kernel
  have hread : besideWorld.disk.read besideWorld.workingDir besideSpec = .ok [0x2D] := by
    decide +kernel
  obtain ⟨a, ha⟩ : ∃ a, ofHistory [] [] "Trace.old" {} = .ok a := ⟨_, if_neg (by decide)⟩
  obtain ⟨file, hfile, hne, -, hdir⟩ := spec_unharmed_of_ofHistory hfault hname ha
  obtain ⟨hspec, -, -, hkept⟩ := hdir ⟨"specs"⟩
  rcases hrun : (a.writeTo (m := Sandbox) ⟨"specs"⟩).run.run besideWorld with ⟨result, w'⟩
  refine ⟨hfault, hname, a, ha, ?_, result, w', hrun, hkept _ _ _ _ hrun hread⟩
  rw [hfile, hspec]
  exact fun hsame => hne (Option.some.inj hsame)

end Artifacts

end ReplicaTrace
