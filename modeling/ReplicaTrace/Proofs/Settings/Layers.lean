import ReplicaTrace.Host.Sandbox
import ReplicaTrace.Proofs.Event.Numerals
import ReplicaTrace.Proofs.Results
import ReplicaTrace.Proofs.Settings.Documents
import ReplicaTrace.Settings.Load

/-!
# What the settings of a run are

The settings of a run have four layers: the command line, the environment, a file, and the defaults.
Not every layer can set everything, and they do not agree on what it means to set something: a
number of workers from the environment that is no number sets nothing, servers from the command
line are trimmed.  What holds is the highest layer that sets it, and only then the rules are looked
at: what breaks a rule in a lower layer does no harm if a higher one is over it.

* `World.settingsFile`, `World.Holds` : which file it is, and what it says.
* `Settings.Layered` : what holds of all layers.
* `Settings.layered_iff` : these are the settings that the layers are combined to.
* `Settings.load_tells_layers` : what loading gives.
-/

namespace ReplicaTrace

open Text

/-! ### The layers -/

/-- What the highest of the layers says that says anything, or else the default. -/
def highest {α : Type} (layers : List (Option α)) (default : α) : α :=
  (layers.findSome? id).getD default

section

variable {α : Type}

@[simp] theorem highest_nil (default : α) : highest [] default = default := rfl

@[simp] theorem highest_cons (layer : Option α) (layers : List (Option α)) (default : α) :
    highest (layer :: layers) default = layer.getD (highest layers default) := by
  cases layer <;> rfl

end

/-- The text is a number of workers, perhaps with blanks around it. -/
def CountsWorkers (text : String) (n : ℕ) : Prop :=
  IsUnsigned (trim text.toList) n ∧ n < 2 ^ 32

theorem readWorkers_eq_some_iff {text : String} {n : ℕ} :
    readWorkers text = some n ↔ CountsWorkers text n := by
  rw [readWorkers, toOption_eq_some_iff, readNat_eq_ok_iff_isUnsigned, CountsWorkers, max32]
  exact and_congr_right fun _ => by omega

/-- **What holds of all layers**, with the settings that the file or the defaults say as the lowest
of them. -/
structure Settings.Layered (s : Settings) (environment : String → Option String) (o : Options)
    (file : Settings) : Prop where
  marker : s.marker = highest [o.marker, environment "TRACECHECK_MARKER"] file.marker
  outputDir : s.outputDir =
    highest [o.outputDir, (environment "TRACECHECK_OUTPUT_DIR").map Path.mk] file.outputDir
  jar : s.jar =
    highest [o.jar.map some, (environment "TLA2TOOLS_JAR").map fun path => some ⟨path⟩] file.jar
  java : s.java = highest [(environment "TRACECHECK_JAVA").map Path.mk] file.java
  /-- Servers on the command line are trimmed. -/
  servers_given : o.servers ≠ [] → s.servers = o.servers.map trimText
  servers_else : o.servers = [] → s.servers = file.servers
  /-- What is a number of workers in the environment holds. -/
  workers_given : ∀ text n, environment "TRACECHECK_WORKERS" = some text →
    CountsWorkers text n → s.workers = n
  /-- What is none is passed over. -/
  workers_else : (∀ text n, environment "TRACECHECK_WORKERS" = some text →
    ¬ CountsWorkers text n) → s.workers = file.workers
  timeout : s.timeout = file.timeout
  trace : s.trace = file.trace

/-- The environment, by its variables. -/
def Environment.ofVariables (environment : String → Option String) : Environment where
  marker := environment "TRACECHECK_MARKER"
  outputDir := environment "TRACECHECK_OUTPUT_DIR"
  jar := environment "TLA2TOOLS_JAR"
  java := environment "TRACECHECK_JAVA"
  workers := environment "TRACECHECK_WORKERS"

/-- The layers combined. -/
def Settings.combine (environment : String → Option String) (o : Options) (file : Settings) :
    Settings :=
  o.applyTo ((Environment.ofVariables environment).applyTo file)

/-- The settings, as long as they break no rule. -/
def Settings.checked (s : Settings) : Except SettingsError Settings :=
  match s.fault? with
  | some fault => .error (.invalid fault)
  | none => .ok s

theorem Settings.checked_eq_ok_iff {s s' : Settings} :
    s.checked = .ok s' ↔ s.fault? = none ∧ s = s' := by
  unfold checked
  cases s.fault? <;> simp

theorem Settings.checked_eq_error_of_fault {s : Settings} {fault : SettingsFault}
    (h : s.fault? = some fault) : s.checked = .error (.invalid fault) := by
  rw [checked, h]

section

variable {environment : String → Option String} {o : Options} {file s : Settings}

theorem Environment.workers_applyTo_of_counts {e : Environment} {text : String} {n : ℕ}
    (htext : e.workers = some text) (h : CountsWorkers text n) : (e.applyTo file).workers = n := by
  have hread : e.workers.bind readWorkers = some n := by
    rw [htext, Option.bind_some, readWorkers_eq_some_iff.2 h]
  rw [applyTo, hread]
  rfl

theorem Environment.workers_applyTo_of_not_counts {e : Environment}
    (h : ∀ text n, e.workers = some text → ¬ CountsWorkers text n) :
    (e.applyTo file).workers = file.workers := by
  have hread : e.workers.bind readWorkers = none := by
    refine Option.bind_eq_none_iff.2 fun text htext => Option.eq_none_iff_forall_ne_some.2 ?_
    exact fun n hn => h text n htext (readWorkers_eq_some_iff.1 hn)
  rw [applyTo, hread]
  rfl

theorem Settings.layered_combine : (combine environment o file).Layered environment o file where
  marker := by
    rw [highest_cons, highest_cons, highest_nil]
    rfl
  outputDir := by
    rw [highest_cons, highest_cons, highest_nil]
    rfl
  jar := by
    rw [combine, Options.applyTo, Environment.applyTo, Environment.ofVariables]
    cases o.jar <;> cases environment "TLA2TOOLS_JAR" <;> rfl
  java := by
    rw [highest_cons, highest_nil]
    rfl
  servers_given h := by simp [combine, Options.applyTo, h]
  servers_else h := by simp [combine, Options.applyTo, Environment.applyTo, h]
  workers_given _ _ htext h := Environment.workers_applyTo_of_counts htext h
  workers_else h := Environment.workers_applyTo_of_not_counts h
  timeout := rfl
  trace := rfl

/-- What holds of all layers leaves no choice. -/
theorem Settings.Layered.eq {s' : Settings} (h : s.Layered environment o file)
    (h' : s'.Layered environment o file) : s = s' := by
  have hservers : s.servers = s'.servers := by
    by_cases hnone : o.servers = []
    · rw [h.servers_else hnone, h'.servers_else hnone]
    · rw [h.servers_given hnone, h'.servers_given hnone]
  have hworkers : s.workers = s'.workers := by
    by_cases hcount : ∃ text n, environment "TRACECHECK_WORKERS" = some text ∧ CountsWorkers text n
    · obtain ⟨text, n, htext, hn⟩ := hcount
      rw [h.workers_given text n htext hn, h'.workers_given text n htext hn]
    · have hnone : ∀ text n, environment "TRACECHECK_WORKERS" = some text →
          ¬ CountsWorkers text n := fun text n htext hn => hcount ⟨text, n, htext, hn⟩
      rw [h.workers_else hnone, h'.workers_else hnone]
  have hmarker := h.marker.trans h'.marker.symm
  have houtputDir := h.outputDir.trans h'.outputDir.symm
  have hjar := h.jar.trans h'.jar.symm
  have hjava := h.java.trans h'.java.symm
  have htimeout := h.timeout.trans h'.timeout.symm
  have htrace := h.trace.trans h'.trace.symm
  cases s
  cases s'
  simp_all

theorem Settings.layered_iff : s.Layered environment o file ↔ s = combine environment o file :=
  ⟨fun h => h.eq layered_combine, fun h => h ▸ layered_combine⟩

end

/-! ### The file -/

/-- The value of an environment variable. -/
def World.environment? (w : World) (name : String) : Option String :=
  w.environment.lookup name

/-- The file with the settings: the one that the command line names, else the one that the
environment names, else the default one if it is there. -/
def World.settingsFile (w : World) (o : Options) : Option Path :=
  highest [o.config.map some,
      (w.environment? "TRACECHECK_CONFIG").map fun path => some ⟨path⟩]
    (if (w.disk.node? w.workingDir ⟨"tracecheck.toml"⟩).isSome then some ⟨"tracecheck.toml"⟩
      else none)

/-- The file holds the document.  Without a file there is no document. -/
def World.Holds (w : World) : Option Path → Option Datum → Prop
  | none, document => document = none
  | some path, document => ∃ bytes text d, w.disk.read w.workingDir path = .ok bytes ∧
      Utf8.decode? bytes = some text ∧ Toml.read (String.ofList text) = some d ∧ document = some d

/-- The text in a file. -/
def World.textIn (w : World) (path : Path) : Except OsError String :=
  match w.disk.read w.workingDir path with
  | .error reason => .error reason
  | .ok bytes =>
    match Utf8.decode? bytes with
    | some text => .ok (String.ofList text)
    | none => .error (.other "stream did not contain valid UTF-8")

/-- The settings in a file. -/
def World.settingsIn (w : World) (path : Path) : Except SettingsError Settings :=
  match w.textIn path with
  | .error reason => .error (.notRead path reason)
  | .ok text =>
    match Settings.ofToml? text with
    | some s => .ok s
    | none => .error (.notUnderstood path)

/-- The lowest layer: the settings in the file, or the default ones without a file. -/
def World.lowest (w : World) (o : Options) : Except SettingsError Settings :=
  match w.settingsFile o with
  | some path => w.settingsIn path
  | none => .ok {}

section

variable {w : World} {o : Options}

theorem run_configFile : (configFile (m := Sandbox) o.config).run w = (w.settingsFile o, w) := by
  rw [World.settingsFile, highest_cons, highest_cons, highest_nil]
  unfold configFile
  rw [StateT.run_bind]
  change ((match o.config.or ((w.environment? "TRACECHECK_CONFIG").map Path.mk) with
    | some path => pure (some path)
    | none => _) : Sandbox (Option Path)).run w = _
  cases o.config with
  | some path => rfl
  | none =>
    cases w.environment? "TRACECHECK_CONFIG" <;> rfl

theorem run_readText (path : Path) :
    (Host.readText path : Sandbox _).run w = (w.textIn path, w) := by
  have hread : (Host.readFile path : Sandbox _).run w = (w.disk.read w.workingDir path, w) := rfl
  unfold Host.readText World.textIn
  rw [StateT.run_bind, hread]
  cases w.disk.read w.workingDir path with
  | error reason => rfl
  | ok bytes =>
    dsimp only [bind]
    cases Utf8.decode? bytes <;> rfl

theorem run_ofFile (path : Path) :
    (Settings.ofFile (m := Sandbox) path).run w = (w.settingsIn path, w) := by
  unfold Settings.ofFile World.settingsIn
  rw [StateT.run_bind, run_readText]
  cases w.textIn path with
  | error reason => rfl
  | ok text =>
    dsimp only [bind]
    cases Settings.ofToml? text <;> rfl

theorem textIn_eq_ok_iff {path : Path} {text : String} :
    w.textIn path = .ok text ↔ ∃ bytes cs, w.disk.read w.workingDir path = .ok bytes ∧
      Utf8.decode? bytes = some cs ∧ String.ofList cs = text := by
  unfold World.textIn
  cases w.disk.read w.workingDir path with
  | error reason => simp
  | ok bytes => cases h : Utf8.decode? bytes <;> simp [h]

/-- Settings are read exactly if the file holds a document that says them. -/
theorem settingsIn_eq_ok_iff {path : Path} {base : Settings} :
    w.settingsIn path = .ok base ↔
      ∃ document, w.Holds (some path) document ∧ base.SaidBy document := by
  unfold World.settingsIn
  constructor
  · intro h
    split at h
    · cases h
    · next text htext =>
      split at h
      · next s hs =>
        cases h
        obtain ⟨bytes, cs, hread, hcs, rfl⟩ := textIn_eq_ok_iff.1 htext
        obtain ⟨d, hd, hbase⟩ := Option.bind_eq_some_iff.1 hs
        exact ⟨some d, ⟨bytes, cs, d, hread, hcs, hd, rfl⟩, Settings.saidBy_some_iff.2 hbase⟩
      · cases h
  · rintro ⟨-, ⟨bytes, cs, d, hread, hcs, hd, rfl⟩, hbase⟩
    have hs : Settings.ofToml? (String.ofList cs) = some base :=
      Option.bind_eq_some_iff.2 ⟨d, hd, Settings.saidBy_some_iff.1 hbase⟩
    simp only [textIn_eq_ok_iff.2 ⟨bytes, cs, hread, hcs, rfl⟩, hs]

theorem lowest_eq_ok_iff {base : Settings} :
    w.lowest o = .ok base ↔
      ∃ document, w.Holds (w.settingsFile o) document ∧ base.SaidBy document := by
  unfold World.lowest
  cases w.settingsFile o with
  | some path => exact settingsIn_eq_ok_iff
  | none =>
    constructor
    · intro h
      cases h
      exact ⟨none, rfl, Settings.saidBy_none_iff.2 rfl⟩
    · rintro ⟨-, rfl, hbase⟩
      rw [Settings.saidBy_none_iff.1 hbase]

/-- Loading combines the layers and looks at the rules. -/
theorem run_load : (Settings.load (m := Sandbox) o).run.run w =
    (w.lowest o >>= fun base => (Settings.combine w.environment? o base).checked, w) := by
  have hconfig : (monadLift (configFile (m := Sandbox) o.config) :
      ExceptT SettingsError Sandbox (Option Path)).run.run w = (.ok (w.settingsFile o), w) :=
    congrArg (fun r : Option Path × World => (Except.ok r.1, r.2)) run_configFile
  have hask : (ExceptT.lift Environment.ask : ExceptT SettingsError Sandbox Environment).run.run w =
      (.ok (.ofVariables w.environment?), w) := rfl
  have hchecked : ∀ s : Settings, (match s.fault? with
      | some fault => throw (.invalid fault)
      | none => return s : ExceptT SettingsError Sandbox Settings).run.run w = (s.checked, w) :=
    fun s => by
      unfold Settings.checked
      cases s.fault? <;> rfl
  unfold Settings.load World.lowest
  refine (run_bind_of_eq_ok hconfig).trans ?_
  cases w.settingsFile o with
  | none =>
    exact (run_bind_of_eq_ok rfl).trans ((run_bind_of_eq_ok hask).trans (hchecked _))
  | some path =>
    have hread : (ExceptT.mk (Settings.ofFile path) :
        ExceptT SettingsError Sandbox Settings).run.run w = (w.settingsIn path, w) :=
      run_ofFile path
    dsimp only
    cases hbase : w.settingsIn path with
    | error e => exact run_bind_of_eq_error (hread.trans (by rw [hbase]))
    | ok base =>
      refine (run_bind_of_eq_ok (hread.trans (by rw [hbase]))).trans ?_
      exact (run_bind_of_eq_ok hask).trans (hchecked (Settings.combine w.environment? o base))

end

/-- **What loading gives.**  The layers leave no choice.  Loading succeeds exactly if there is no
file or the file holds a document of the right kinds, and what holds of all layers breaks no rule;
the result is what holds of all layers.  If that breaks a rule, the rule is the fault.  The world
stays as it is. -/
theorem Settings.load_tells_layers (w : World) (o : Options) :
    (∀ file : Settings, ∃! s : Settings, s.Layered w.environment? o file) ∧
      (∀ s, (Settings.load (m := Sandbox) o).run.run w = (.ok s, w) ↔
        ∃ (document : Option Datum) (file : Settings), w.Holds (w.settingsFile o) document ∧
          file.SaidBy document ∧ s.Layered w.environment? o file ∧ s.fault? = none) ∧
      ∀ (document : Option Datum) (file s : Settings) (fault : SettingsFault),
        w.Holds (w.settingsFile o) document → file.SaidBy document →
          s.Layered w.environment? o file → s.fault? = some fault →
          (Settings.load (m := Sandbox) o).run.run w = (.error (.invalid fault), w) := by
  refine ⟨fun file => ⟨_, layered_combine, fun s h => layered_iff.1 h⟩, fun s => ?_, ?_⟩
  · rw [run_load, Prod.mk.injEq, and_iff_left rfl, except_bind_eq_ok_iff]
    constructor
    · rintro ⟨file, hfile, hs⟩
      obtain ⟨document, hdocument, hsaid⟩ := lowest_eq_ok_iff.1 hfile
      obtain ⟨hfault, rfl⟩ := checked_eq_ok_iff.1 hs
      exact ⟨document, file, hdocument, hsaid, layered_combine, hfault⟩
    · rintro ⟨document, file, hdocument, hsaid, hlayered, hfault⟩
      obtain rfl := layered_iff.1 hlayered
      exact ⟨file, lowest_eq_ok_iff.2 ⟨document, hdocument, hsaid⟩,
        checked_eq_ok_iff.2 ⟨hfault, rfl⟩⟩
  · intro document file s fault hdocument hsaid hlayered hfault
    obtain rfl := layered_iff.1 hlayered
    have hfile : w.lowest o = .ok file := lowest_eq_ok_iff.2 ⟨document, hdocument, hsaid⟩
    rw [run_load, hfile]
    exact congrArg (·, w) (checked_eq_error_of_fault hfault)

/-- A working directory with a file that asks for no workers and has a blank marker, under an
environment that sets both. -/
def layeredWorld : World where
  disk := ⟨[(["work"], .directory), (["work", "tracecheck.toml"],
    .file (Utf8.encode "workers = 0\nmarker = ' '\nservers = ['a']\njava = 'jdk'".toList))]⟩
  workingDir := ["work"]
  environment := [("TRACECHECK_MARKER", "[A]"), ("TRACECHECK_WORKERS", " +4 "),
    ("TRACECHECK_OUTPUT_DIR", "out")]
  programs := []
  started := []

/-- What the file says. -/
def layeredFile : Settings where
  workers := 0
  marker := " "
  servers := ["a"]
  java := ⟨"jdk"⟩

/-- Blank servers from the command line are a fault, although those of the file are not; the blank
marker and the missing workers of the file are none, since the environment is over them. -/
theorem Settings.load_tells_layers_layeredWorld :
    (Settings.load (m := Sandbox) { servers := [" 1.1", "1.2 "] }).run.run layeredWorld =
        (.ok { marker := "[A]", servers := ["1.1", "1.2"], outputDir := ⟨"out"⟩, java := ⟨"jdk"⟩,
               workers := 4 }, layeredWorld) ∧
      (Settings.load (m := Sandbox) { servers := ["1.1", " "] }).run.run layeredWorld =
        (.error (.invalid .blankServer), layeredWorld) := by
  have hlowest : ∀ o : Options, o.config = none → layeredWorld.lowest o = .ok layeredFile := by
    intro o ho
    have hsame : layeredWorld.lowest o = layeredWorld.lowest {} := by
      unfold World.lowest World.settingsFile
      rw [ho]
    exact hsame.trans (by decide +kernel)
  constructor
  · obtain ⟨document, hdocument, hsaid⟩ :=
      lowest_eq_ok_iff.1 (hlowest { servers := [" 1.1", "1.2 "] } rfl)
    exact ((load_tells_layers layeredWorld _).2.1 _).2 ⟨document, layeredFile, hdocument, hsaid,
      layered_iff.2 (by decide +kernel), by decide +kernel⟩
  · obtain ⟨document, hdocument, hsaid⟩ :=
      lowest_eq_ok_iff.1 (hlowest { servers := ["1.1", " "] } rfl)
    exact (load_tells_layers layeredWorld _).2.2 document layeredFile _ .blankServer hdocument hsaid
      layered_combine (by decide +kernel)

end ReplicaTrace
