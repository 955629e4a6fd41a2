import ReplicaTrace.Proofs.Host.Programs
import ReplicaTrace.Proofs.Host.Routes
import ReplicaTrace.Proofs.Run.Reference

/-!
# What the model checker is told

The model checker is started in the directory of the trace module, which need not be the working
directory of the run, and is told four paths.  Three of them lead it to what is meant: the two files
of the trace are named by their last names, and the directory of the protocol's specification by its
path from the root.  The archive is named as it was given, which is enough only if it was given from
the root or the model checker is started in the working directory.

* `World.Grows` : a world with more on its disk and no other difference.
* `Artifacts.exists_place_of_writeTo` : the files of the trace are where the paths lead.
* `started_of_runChecker` : how the model checker is started.
* `CheckerPaths.Mean` : what the paths mean to the model checker.
* `exists_paths_of_run` : the paths in a run.
-/

namespace ReplicaTrace

/-! ### Worlds with more on their disks -/

/-- The worlds differ only by what is on their disks, and the second has more there. -/
structure World.Grows (w w' : World) : Prop where
  disk : w.disk.Extends w'.disk
  others : w' = { w with disk := w'.disk }

namespace World

variable {w w' w'' : World}

theorem Grows.refl (w : World) : w.Grows w :=
  ⟨.refl _, rfl⟩

theorem Grows.trans (h : w.Grows w') (h' : w'.Grows w'') : w.Grows w'' := by
  refine ⟨h.disk.trans h'.disk, ?_⟩
  rw [h'.others, h.others]

theorem Grows.workingDir_eq (h : w.Grows w') : w'.workingDir = w.workingDir := by
  rw [h.others]

theorem Grows.started_eq (h : w.Grows w') : w'.started = w.started := by
  rw [h.others]

end World

/-- The program changes nothing in a world but its disk, and only adds to that. -/
def OnlyAdds {α : Type} (x : Sandbox α) : Prop :=
  ∀ w : World, w.Grows (x.run w).2

theorem World.composes_grows : Composes World.Grows where
  refl := .refl
  trans h h' := h.trans h'

theorem onlyAdds_makeDir (p : Path) : OnlyAdds (Host.makeDir p) := by
  intro w
  simp only [Host.makeDir, StateT.run]
  split
  · next hmade => exact ⟨Disk.extends_of_makeDir hmade, rfl⟩
  · exact .refl w

/-- Creating directories only adds to a world, even where it fails on the way. -/
theorem onlyAdds_makeWays (ps : List Path) : OnlyAdds (Host.makeWays ps) :=
  along_makeWays World.composes_grows onlyAdds_makeDir ps

/-! ### Writing the files of the trace -/

section

variable {w w' : World} {p : Path} {content : Bytes}

/-- A file that was written is found where the path leads. -/
theorem exists_place_of_writeFile
    (h : (Host.writeFile p content : Sandbox (Except OsError Unit)).run w = (.ok (), w')) :
    w.Grows w' ∧ ∃ place, w'.disk.resolve w.workingDir p = .ok place ∧
      ∀ names, w'.disk.lookup names =
        if names = place then some (.file content) else w.disk.lookup names := by
  simp only [Host.writeFile, StateT.run] at h
  split at h
  · next hwrite =>
    obtain rfl := (Prod.mk.inj h).2
    obtain ⟨hextends, hplace⟩ := Disk.resolve_of_write hwrite
    exact ⟨⟨hextends, rfl⟩, hplace⟩
  · cases h

theorem run_eq_ok_of_attempt {act : Sandbox (Except OsError Unit)}
    (h : (Artifacts.attempt p act).run.run w = (.ok (), w')) : act.run w = (.ok (), w') := by
  obtain ⟨result, w₁, hact, h⟩ := exists_of_bind_eq_ok h
  obtain ⟨hresult, rfl⟩ : Except.ok (act.run w).1 = .ok result ∧ (act.run w).2 = w₁ :=
    Prod.mk.inj hact
  cases result with
  | error => cases h
  | ok =>
    obtain rfl := (Prod.mk.inj h).2
    exact Prod.ext (Except.ok.inj hresult) rfl

namespace Artifacts

variable {a : Artifacts} {dir : Path} {paths : ArtifactPaths}

theorem isEnding_tla : Path.IsEnding ".tla" := ⟨by decide, by decide⟩

theorem isEnding_cfg : Path.IsEnding ".cfg" := ⟨by decide, by decide⟩

/-- The two files have different names and the same directory. -/
theorem exists_name_paths (a : Artifacts) (dir : Path) :
    ∃ name, (a.paths dir).spec.fileName? = some (name ++ ".tla") ∧
      (a.paths dir).config.fileName? = some (name ++ ".cfg") ∧
      (a.paths dir).spec.directory? = (a.paths dir).config.directory? := by
  obtain ⟨name, directory, hname⟩ := Path.exists_name_of_ending (dir.join a.moduleName).text
  have hspec : (a.paths dir).spec = ⟨(dir.join a.moduleName).text ++ ".tla"⟩ :=
    Path.join_append isEnding_tla
  have hconfig : (a.paths dir).config = ⟨(dir.join a.moduleName).text ++ ".cfg"⟩ :=
    Path.join_append isEnding_cfg
  obtain ⟨hspecName, hspecDir⟩ := hname _ isEnding_tla
  obtain ⟨hconfigName, hconfigDir⟩ := hname _ isEnding_cfg
  rw [hspec, hconfig]
  exact ⟨name, hspecName, hconfigName, hspecDir.trans hconfigDir.symm⟩

/-- **The files of the trace** are written where their paths lead, and what was on the disk before
stays reachable. -/
theorem exists_place_of_writeTo (h : (a.writeTo (m := Sandbox) dir).run.run w = (.ok paths, w')) :
    paths = a.paths dir ∧ w.Grows w' ∧
      (∃ place, w'.disk.resolve w.workingDir paths.spec = .ok place ∧
        w'.disk.lookup place = some (.file (Utf8.encode a.spec.toList))) ∧
      ∃ place, w'.disk.resolve w.workingDir paths.config = .ok place ∧
        w'.disk.lookup place = some (.file (Utf8.encode a.config.toList)) := by
  unfold writeTo at h
  obtain ⟨⟨⟩, w₁, hdirs, h⟩ := exists_of_bind_eq_ok h
  obtain ⟨⟨⟩, w₂, hspec, h⟩ := exists_of_bind_eq_ok h
  obtain ⟨⟨⟩, w₃, hconfig, h⟩ := exists_of_bind_eq_ok h
  obtain ⟨rfl, rfl⟩ : a.paths dir = paths ∧ w₃ = w' :=
    ⟨Except.ok.inj (Prod.mk.inj h).1, (Prod.mk.inj h).2⟩
  -- three programs one after the other, each of which only adds to the disk
  have hgrows₁ : w.Grows w₁ := by
    have hmade := onlyAdds_makeWays dir.waysTo w
    rwa [show Host.makeWays dir.waysTo = Host.makeDirs dir from rfl, run_eq_ok_of_attempt hdirs]
      at hmade
  obtain ⟨hgrows₂, place, hplace, hlookup⟩ := exists_place_of_writeFile (run_eq_ok_of_attempt hspec)
  obtain ⟨hgrows₃, place', hplace', hlookup'⟩ :=
    exists_place_of_writeFile (run_eq_ok_of_attempt hconfig)
  rw [hgrows₁.workingDir_eq] at hplace
  rw [hgrows₂.workingDir_eq, hgrows₁.workingDir_eq] at hplace'
  refine ⟨rfl, (hgrows₁.trans hgrows₂).trans hgrows₃, ⟨place, hgrows₃.disk.resolve hplace, ?_⟩,
    place', hplace', ?_⟩
  · -- the second file has another name, so that the first is still there
    obtain ⟨name, hname, hname', -⟩ := exists_name_paths a dir
    obtain ⟨_, -, -, rfl, -⟩ := Disk.resolve_fileName hplace hname
    obtain ⟨_, -, -, rfl, -⟩ := Disk.resolve_fileName hplace' hname'
    rw [hlookup', if_neg, hlookup, if_pos rfl]
    intro hsame
    have hnames := List.append_inj_right' hsame rfl
    simp at hnames
  · rw [hlookup', if_pos rfl]

/-- The two files are found in one directory by their names. -/
theorem exists_folder_of_writeTo (h : (a.writeTo (m := Sandbox) dir).run.run w = (.ok paths, w')) :
    ∃ folder, w'.disk.lookup folder = some .directory ∧
      w'.disk.Leads w.workingDir paths.spec.folder folder ∧
      ∀ file ∈ [(paths.spec, a.spec), (paths.config, a.config)],
        w'.disk.resolve folder ⟨Checker.shortName file.1⟩ = w'.disk.resolve w.workingDir file.1 ∧
          w'.disk.read folder ⟨Checker.shortName file.1⟩ = .ok (Utf8.encode file.2.toList) := by
  obtain ⟨hpaths, -, ⟨place, hspec, hspecFile⟩, place', hconfig, hconfigFile⟩ :=
    exists_place_of_writeTo h
  obtain ⟨name, hspecName, hconfigName, hsame⟩ := exists_name_paths a dir
  rw [← hpaths] at hspecName hconfigName hsame
  obtain ⟨folder, hfolder, hleads, -, hspecHere⟩ := Disk.resolve_fileName hspec hspecName
  obtain ⟨folder', -, hleads', -, hconfigHere⟩ := Disk.resolve_fileName hconfig hconfigName
  obtain rfl : folder = folder' := by
    rw [Path.folder, ← hsame] at hleads'
    exact Except.ok.inj (hleads.symm.trans hleads')
  refine ⟨folder, hfolder, hleads, fun file hfile => ?_⟩
  rcases List.mem_pair.1 hfile with rfl | rfl
  · rw [Checker.shortName, hspecName]
    exact ⟨hspecHere.trans hspec.symm, Disk.read_of_resolve hspecHere hspecFile⟩
  · rw [Checker.shortName, hconfigName]
    exact ⟨hconfigHere.trans hconfig.symm, Disk.read_of_resolve hconfigHere hconfigFile⟩

end Artifacts

end

/-! ### Starting the model checker -/

section

variable {s : Settings} {spec : Path} {artifacts : ArtifactPaths} {w w' : World}
  {v : Except Checker.Error Checker.Verdict}

/-- How the model checker is to be run, from settings. -/
def runnerFor (s : Settings) (spec : Path) (workingDir : Names) : Checker.Runner where
  jar := s.jar.getD Checker.defaultJar
  java := s.java
  workers := s.workers
  limit := s.timeout.map (· * 1000)
  library := some (Path.absolute (World.pathOf workingDir) spec.folder)

/-- Launching a command leaves a trace only if the program was started, in the directory of the
command. -/
theorem directoryOf_of_launch {c : Command} {limit : Option ℕ} {w : World}
    (hstarted : (w.launch c limit).2.started ≠ w.started) :
    ∃ dir, w.directoryOf c = .ok dir ∧
      (w.launch c limit).2 = { w with started := w.started ++ [⟨c.arguments, dir⟩] } := by
  unfold World.launch at hstarted ⊢
  cases hstart : w.startOf c with
  | error e =>
    rw [hstart] at hstarted
    exact absurd rfl hstarted
  | ok start =>
    obtain ⟨dir, behaviour⟩ := start
    refine ⟨dir, ?_, by cases behaviour <;> rfl⟩
    unfold World.startOf at hstart
    split at hstart
    · cases hstart
    · obtain ⟨directory, hdir, hstart⟩ := except_bind_eq_ok_iff.1 hstart
      obtain ⟨_, -, hstart⟩ := except_bind_eq_ok_iff.1 hstart
      obtain ⟨rfl, -⟩ := Prod.mk.inj (Except.ok.inj hstart)
      exact hdir

/-- **Starting the model checker**: only a file is taken for the archive, and but for the program
that was started the world is the same. -/
theorem started_of_runChecker
    (h : (runChecker (m := Sandbox) s spec artifacts).run w = (v, w'))
    (hstarted : w'.started ≠ w.started) :
    w.disk.isFile w.workingDir (s.jar.getD Checker.defaultJar) = true ∧
      ∃ dir, w.directoryOf ((runnerFor s spec w.workingDir).command artifacts) = .ok dir ∧
        w' = { w with started :=
          w.started ++ [⟨(runnerFor s spec w.workingDir).arguments artifacts, dir⟩] } := by
  unfold runChecker at h
  rw [StateT.run_bind] at h
  set jar := s.jar.getD Checker.defaultJar with hjar
  have hresolved : (Checker.resolveJar s.jar : Sandbox (Except Checker.Error Path)).run w =
      (if w.disk.isFile w.workingDir jar then .ok jar else .error (.noJar jar), w) := rfl
  rw [hresolved] at h
  by_cases hfile : w.disk.isFile w.workingDir jar = true
  · rw [if_pos hfile] at h
    have hrun : ((runnerFor s spec w.workingDir).check (m := Sandbox) artifacts).run w =
        (v, w') := h
    rw [Checker.Runner.run_check (r := runnerFor s spec w.workingDir) artifacts hfile] at hrun
    obtain rfl := (Prod.mk.inj hrun).2
    exact ⟨hfile, directoryOf_of_launch hstarted⟩
  · rw [if_neg hfile] at h
    obtain rfl := (Prod.mk.inj h).2
    exact absurd rfl hstarted

/-- The model checker is started in the directory of the trace module. -/
theorem eq_of_directoryOf {r : Checker.Runner} {dir place : Names}
    (hdir : w.directoryOf (r.command artifacts) = .ok dir)
    (hleads : w.disk.Leads w.workingDir artifacts.spec.folder place)
    (hplace : w.disk.lookup place = some .directory) : dir = place := by
  unfold World.directoryOf Checker.Runner.command at hdir
  unfold Path.folder at hleads
  cases hfolder : artifacts.spec.directory? with
  | none =>
    rw [hfolder] at hdir hleads
    rw [Disk.leads_iff_route hplace] at hleads
    exact (Except.ok.inj hdir).symm.trans (Except.ok.inj hleads)
  | some folder =>
    rw [hfolder] at hdir hleads
    obtain ⟨names, hnames, hdir⟩ := except_bind_eq_ok_iff.1 hdir
    split at hdir
    · obtain rfl := Except.ok.inj hdir
      exact Except.ok.inj ((Disk.leads_of_resolve hnames).symm.trans hleads)
    · cases hdir

end

/-! ### The paths -/

/-- The paths that the model checker is told. -/
structure CheckerPaths where
  /-- The directory of the protocol's specification. -/
  library : Path
  /-- The archive. -/
  jar : Path
  /-- The configuration of the trace module. -/
  config : Path
  /-- The trace module. -/
  spec : Path

/-- The arguments in which the model checker is told the paths. -/
def CheckerPaths.arguments (c : CheckerPaths) (workers : ℕ) : List String :=
  [s!"-DTLA-Library={c.library.text}", "-cp", c.jar.text, "tlc2.TLC",
    "-workers", toString (max workers 1), "-config", c.config.text, c.spec.text]

/-- **What the paths mean** to the model checker in its directory: the files that were written, the
directory that holds the protocol's specification, and the archive if it was given from the root or
the directory is the working directory. -/
structure CheckerPaths.Mean (c : CheckerPaths) (s : Settings) (spec : Path)
    (written : ArtifactPaths) (texts : Artifacts) (d : Disk) (workingDir dir : Names) : Prop where
  config_place : d.resolve dir c.config = d.resolve workingDir written.config
  config_read : d.read dir c.config = .ok (Utf8.encode texts.config.toList)
  spec_place : d.resolve dir c.spec = d.resolve workingDir written.spec
  spec_read : d.read dir c.spec = .ok (Utf8.encode texts.spec.toList)
  library_place : ∃ folder name, spec.fileName? = some name ∧
    d.resolve workingDir spec = .ok (folder ++ [name]) ∧
    d.lookup folder = some .directory ∧ d.Leads dir c.library folder
  jar_eq : c.jar = s.jar.getD Checker.defaultJar
  jar_isFile : d.isFile workingDir c.jar = true
  /-- From the root, or in the working directory, the archive is found. -/
  jar_found : c.jar.isAbsolute = true ∨ dir = workingDir →
    d.resolve dir c.jar = d.resolve workingDir c.jar
  /-- Elsewhere it is not, unless there is a way up in its path. -/
  jar_lost : ".." ∉ c.jar.parts.names → d.resolve dir c.jar = d.resolve workingDir c.jar →
    c.jar.isAbsolute = true ∨ dir = workingDir

section

variable {s : Settings} {inputs : RunInputs} {o : Outcome} {w w' : World}

theorem exists_fileName_of_specModuleName {spec : Path} {name : String}
    (h : specModuleName spec = .ok name) :
    ∃ file, spec.fileName? = some file ∧ Path.stem file = name := by
  unfold specModuleName at h
  split at h
  · next hstem =>
    split at h
    · cases h
    · obtain rfl := Except.ok.inj h
      exact Option.map_eq_some_iff.1 hstem
  · cases h

/-- The directory of the protocol's specification is found by its path from the root. -/
theorem exists_folder_of_isFile {spec : Path} {name : String} {d : Disk}
    (hfile : w.disk.isFile w.workingDir spec = true) (hname : specModuleName spec = .ok name)
    (hextends : w.disk.Extends d) (hdir : d.HasDirectory w.workingDir) (start : Names) :
    ∃ folder file, spec.fileName? = some file ∧
      d.resolve w.workingDir spec = .ok (folder ++ [file]) ∧ d.lookup folder = some .directory ∧
      d.Leads start (.absolute (World.pathOf w.workingDir) spec.folder) folder := by
  obtain ⟨file, hfileName, -⟩ := exists_fileName_of_specModuleName hname
  obtain ⟨place, hplace⟩ := Disk.exists_resolve_of_isFile hfile
  have hlater := hextends.resolve hplace
  obtain ⟨folder, hfolder, hleads, rfl, -⟩ := Disk.resolve_fileName hlater hfileName
  exact ⟨folder, file, hfileName, hlater, hfolder, (Disk.leads_absolute hdir hfolder).2 hleads⟩

/-- **The paths that the model checker is told.**  If a run from a working directory starts a
program, it starts the model checker, once, and the paths among its arguments mean what they should;
only the archive is lost on it if it was given relative to another directory. -/
theorem exists_paths_of_run (h : (run (m := Sandbox) s inputs).run.run w = (.ok o, w'))
    (hdir : w.disk.HasDirectory w.workingDir) (hstarted : w'.started ≠ w.started) :
    ∃ (stages : Stages s inputs w w' o) (c : CheckerPaths) (dir : Names),
      w'.started = w.started ++ [⟨c.arguments s.workers, dir⟩] ∧
      c.Mean s inputs.spec o.artifacts stages.artifacts w'.disk w.workingDir dir := by
  obtain ⟨stages⟩ := nonempty_stages_of_run h
  obtain ⟨-, hgrows, -⟩ := Artifacts.exists_place_of_writeTo stages.written_eq
  have hverdict := stages.verdict_eq
  split at hverdict
  · exact absurd (hverdict.2 ▸ hgrows.started_eq) hstarted
  obtain ⟨v, -, hcheck⟩ := hverdict
  rw [← hgrows.started_eq] at hstarted
  obtain ⟨hjar, dir, hstart, hworld⟩ := started_of_runChecker hcheck hstarted
  rw [hgrows.workingDir_eq] at hstart hjar
  -- the directory of the trace module is the one in which the model checker is started
  obtain ⟨folder, hfolder, hleads, hfiles⟩ := Artifacts.exists_folder_of_writeTo stages.written_eq
  rw [← hgrows.workingDir_eq] at hleads
  obtain rfl := eq_of_directoryOf hstart hleads hfolder
  obtain ⟨hspec, hspecRead⟩ := hfiles (o.artifacts.spec, stages.artifacts.spec) (by simp)
  obtain ⟨hconfig, hconfigRead⟩ := hfiles (o.artifacts.config, stages.artifacts.config) (by simp)
  have hlibrary := exists_folder_of_isFile stages.spec_isFile stages.spec_name hgrows.disk
    (hdir.mono hgrows.disk) dir
  obtain ⟨jarPlace, hjarPlace⟩ := Disk.exists_resolve_of_isFile hjar
  refine ⟨stages, ⟨.absolute (World.pathOf w.workingDir) inputs.spec.folder,
    s.jar.getD Checker.defaultJar, ⟨Checker.shortName o.artifacts.config⟩,
    ⟨Checker.shortName o.artifacts.spec⟩⟩, dir, ?_, ?_⟩
  · rw [congrArg World.started hworld, hgrows.started_eq, hgrows.workingDir_eq]
    rfl
  · have hdisk : w'.disk = stages.written.disk := by simpa using congrArg World.disk hworld
    rw [hdisk]
    exact {
      config_place := hconfig
      config_read := hconfigRead
      spec_place := hspec
      spec_read := hspecRead
      library_place := by
        dsimp only
        exact hlibrary
      jar_eq := rfl
      jar_isFile := hjar
      jar_found := by
        rintro (habsolute | rfl)
        · exact Disk.resolve_eq_of_isAbsolute habsolute _ _
        · rfl
      jar_lost := fun hdown => (Disk.resolve_eq_resolve_iff hjarPlace hdown).1 }

end

/-! ### An example -/

/-- A world with the archive in the working directory, and with `java` in the second of the
directories in which programs are looked for. -/
def outsideWorld : World where
  disk := ⟨[
    (["bin"], .directory),
    (["bin", "java"], .file []),
    (["w"], .directory),
    (["w", "a.log"], .file (Utf8.encode
      "[T] 2024/01/01 00:00:00.001 p.go:1: ID:0,action:P2a,slot:1,ballot:1.0.1\n".toList)),
    (["w", "P.tla"], .file []),
    (["w", "tla2tools.jar"], .file [])]⟩
  workingDir := ["w"]
  environment := [("PATH", "/sbin:/bin")]
  programs := [(["bin", "java"], .ends (some 0) [] [])]
  started := []

/-- The trace goes to another directory; the archive and `java` are the default ones. -/
def outsideSettings : Settings where
  marker := "[T]"
  outputDir := ⟨"out"⟩

/-- The log file is given, and the model checker is to be run. -/
def outsideInputs : RunInputs where
  logs := [⟨"a.log"⟩]
  spec := ⟨"P.tla"⟩
  skipCheck := false

theorem hasDirectory_outsideWorld : outsideWorld.disk.HasDirectory outsideWorld.workingDir := by
  refine ⟨by decide, fun name hname => ?_⟩
  obtain rfl := List.mem_singleton.1 hname
  exact ⟨⟨by decide, by decide⟩, by decide, by decide, by decide⟩

/-- The program that is started by the run. -/
def outsideStarted : Started where
  arguments := ["-DTLA-Library=/w", "-cp", "tla2tools.jar", "tlc2.TLC", "-workers", "1",
    "-config", "Trace.cfg", "Trace.tla"]
  directory := ["w", "out"]

theorem exists_started_outsideWorld :
    ∃ o w', (run (m := Sandbox) outsideSettings outsideInputs).run.run outsideWorld = (.ok o, w') ∧
      w'.started = [outsideStarted] ∧
      (w'.disk.resolve ["w"] ⟨"tla2tools.jar"⟩).toOption = some ["w", "tla2tools.jar"] ∧
      (w'.disk.resolve ["w", "out"] ⟨"tla2tools.jar"⟩).toOption = none := by
  have hcomputed :
      (fun r : Except RunError Outcome × World => (r.1.toOption.isSome, r.2.started,
        (r.2.disk.resolve ["w"] ⟨"tla2tools.jar"⟩).toOption,
        (r.2.disk.resolve ["w", "out"] ⟨"tla2tools.jar"⟩).toOption))
        ((run (m := Sandbox) outsideSettings outsideInputs).run.run outsideWorld) =
      (true, [outsideStarted], some ["w", "tla2tools.jar"], none) := by
    simp only [run, readSources, gather, readSource, SourceReport.ofData,
      mergeSort_notAfter_eq_insertionSort, restoreOrder_eq, inTimeOrder_eq_insertionSort]
    decide +kernel
  rcases hrun : (run (m := Sandbox) outsideSettings outsideInputs).run.run outsideWorld with
    ⟨e | o, w'⟩
  · rw [hrun] at hcomputed
    cases congrArg Prod.fst hcomputed
  · rw [hrun] at hcomputed
    exact ⟨o, w', rfl, by simpa [Except.toOption] using hcomputed⟩

theorem exists_paths_of_run_outsideWorld :
    outsideWorld.disk.HasDirectory outsideWorld.workingDir ∧
    ∃ o w', (run (m := Sandbox) outsideSettings outsideInputs).run.run outsideWorld = (.ok o, w') ∧
      w'.started ≠ outsideWorld.started ∧
      ∃ (stages : Stages outsideSettings outsideInputs outsideWorld w' o) (c : CheckerPaths)
        (dir : Names),
        w'.started = outsideWorld.started ++ [⟨c.arguments outsideSettings.workers, dir⟩] ∧
        c.Mean outsideSettings outsideInputs.spec o.artifacts stages.artifacts w'.disk
          outsideWorld.workingDir dir := by
  obtain ⟨o, w', hrun, hprogram, -⟩ := exists_started_outsideWorld
  have hstarted : w'.started ≠ outsideWorld.started := by
    rw [hprogram]
    decide
  exact ⟨hasDirectory_outsideWorld, o, w', hrun, hstarted,
    exists_paths_of_run hrun hasDirectory_outsideWorld hstarted⟩

/-- Started in another directory, the model checker looks for the archive where it is not. -/
theorem exists_lost_archive_outsideWorld :
    ∃ o w' x jar, (run (m := Sandbox) outsideSettings outsideInputs).run.run outsideWorld =
        (.ok o, w') ∧
      w'.started = outsideWorld.started ++ [x] ∧
      x.arguments[x.arguments.idxOf "-cp" + 1]? = some (Path.text jar) ∧
      jar = outsideSettings.jar.getD Checker.defaultJar ∧
      Path.absolute (World.pathOf x.directory) jar ≠
        Path.absolute (World.pathOf outsideWorld.workingDir) jar ∧
      w'.disk.resolve x.directory jar ≠ w'.disk.resolve outsideWorld.workingDir jar := by
  obtain ⟨o, w', hrun, hstarted, hfound, hlost⟩ := exists_started_outsideWorld
  refine ⟨o, w', outsideStarted, _, hrun, hstarted, rfl, rfl, by decide +kernel, fun hsame => ?_⟩
  exact absurd ((congrArg Except.toOption hsame).symm.trans hlost) (hfound ▸ Option.some_ne_none _)

end ReplicaTrace
