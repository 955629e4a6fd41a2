import ReplicaTrace.Settings.OfDatum

/-!
# What a document says

A document is a record of parts, some of which are records again.  A part that is not given has its
default; one that is given has to be of its kind.  The settings that are read from a document are
exactly the settings that it says, and a document that says none is not read.

* `Datum.given?`, `Datum.PartIs` : a part of a record, and what it says.
* `Settings.SaidBy` : settings that a document says, part by part.
* `Settings.saidBy_some_iff` : these are the settings that are read from it.
-/

namespace ReplicaTrace

namespace Datum

/-- A part of a record that may be missing itself: a table gives it by name, a list by place. -/
def given? (names : List String) (name : String) : Option Datum → Option Datum
  | some (table entries) => entries.lookup name
  | some (list items) => (names.zip items).lookup name
  | _ => none

/-- The value has parts.  What a table holds under other names has no meaning, but no number in it
is out of bounds. -/
def IsRecord (names : List String) : Datum → Prop
  | table entries => ∀ e ∈ entries, e.1 ∉ names → e.2.isReadable = true
  | list _ | moment _ => True
  | _ => False

/-- A part says a value: the one that it is read as, or the default if it is not given. -/
def PartIs {α : Type} (part : Option Datum) (read : Datum → Option α) (default a : α) : Prop :=
  match part with
  | some d => read d = some a
  | none => a = default

variable {α : Type} {names : List String} {name : String} {d : Datum} {read : Datum → Option α}
  {default a : α}

theorem haveReadable_iff {entries : List (String × Datum)} :
    haveReadable entries = true ↔ ∀ e ∈ entries, e.2.isReadable = true := by
  induction entries with
  | nil => simp [haveReadable]
  | cons e entries ih => simp [haveReadable, ih]

theorem exists_fields?_iff : (∃ fields, d.fields? .ignored names = some fields) ↔
    d.IsRecord names := by
  cases d <;> simp [fields?, IsRecord, haveReadable_iff]

theorem lookup_fields {fields : List (String × Datum)}
    (h : d.fields? .ignored names = some fields) : fields.lookup name = given? names name d := by
  cases d with
  | table entries =>
    rw [fields?] at h
    split at h
    · rw [← Option.some.inj h]
      rfl
    · cases h
  | list items =>
    rw [fields?, if_pos (.inl rfl)] at h
    rw [← Option.some.inj h]
    rfl
  | moment text =>
    rw [← Option.some.inj h]
    rfl
  | _ => cases h

/-- A part of a record is read as what it says. -/
theorem part_eq_some_iff {fields : List (String × Datum)}
    (h : d.fields? .ignored names = some fields) :
    part fields name read default = some a ↔ PartIs (given? names name d) read default a := by
  rw [part, lookup_fields h]
  cases given? names name d with
  | none => exact Option.some_inj.trans eq_comm
  | some d' => rfl

end Datum

open Datum Text

/-! ### The names of the variables -/

/-- The record says the names of the variables. -/
structure VariableNames.SaidBy (record : Option Datum) (v : VariableNames) : Prop where
  isRecord : ∀ d ∈ record, d.IsRecord partNames
  role : PartIs (given? partNames "role" record) text? ({} : VariableNames).role v.role
  slot : PartIs (given? partNames "slot" record) text? ({} : VariableNames).slot v.slot
  log : PartIs (given? partNames "log" record) text? ({} : VariableNames).log v.log
  ballot : PartIs (given? partNames "ballot" record) text? ({} : VariableNames).ballot v.ballot

theorem VariableNames.saidBy_some_iff {d : Datum} {v : VariableNames} :
    v.SaidBy (some d) ↔ VariableNames.ofDatum? .ignored d = some v := by
  unfold VariableNames.ofDatum?
  constructor
  · intro h
    obtain ⟨fields, hfields⟩ := exists_fields?_iff.2 (h.isRecord d rfl)
    rw [hfields, Option.bind_eq_bind, Option.bind_some]
    simp only [(part_eq_some_iff hfields).2 h.role, (part_eq_some_iff hfields).2 h.slot,
      (part_eq_some_iff hfields).2 h.log, (part_eq_some_iff hfields).2 h.ballot]
    rfl
  · intro h
    simp only [Option.bind_eq_bind, Option.bind_eq_some_iff] at h
    obtain ⟨fields, hfields, role, hrole, slot, hslot, log, hlog, ballot, hballot, hv⟩ := h
    cases hv
    exact {
      isRecord := fun d' hd' => Option.some.inj hd' ▸ exists_fields?_iff.1 ⟨fields, hfields⟩
      role := (part_eq_some_iff hfields).1 hrole
      slot := (part_eq_some_iff hfields).1 hslot
      log := (part_eq_some_iff hfields).1 hlog
      ballot := (part_eq_some_iff hfields).1 hballot }

theorem VariableNames.saidBy_none_iff {v : VariableNames} : v.SaidBy none ↔ v = {} := by
  constructor
  · rintro ⟨-, hrole, hslot, hlog, hballot⟩
    cases v
    cases hrole
    cases hslot
    cases hlog
    cases hballot
    rfl
  · rintro rfl
    exact ⟨by simp, rfl, rfl, rfl, rfl⟩

/-- As a part of a larger record. -/
theorem VariableNames.partIs_iff {record : Option Datum} {v : VariableNames} :
    PartIs record (VariableNames.ofDatum? .ignored) {} v ↔ v.SaidBy record := by
  cases record with
  | none => exact saidBy_none_iff.symm
  | some d => exact saidBy_some_iff.symm

/-! ### The settings for the trace module -/

/-- The record says the settings for the trace module. -/
structure TraceSettings.SaidBy (record : Option Datum) (t : TraceSettings) : Prop where
  isRecord : ∀ d ∈ record, d.IsRecord partNames
  moduleName : PartIs (given? partNames "module_name" record) text?
    ({} : TraceSettings).moduleName t.moduleName
  initPredicate : PartIs (given? partNames "init_predicate" record) (optional? text?)
    ({} : TraceSettings).initPredicate t.initPredicate
  nextAction : PartIs (given? partNames "next_action" record) (optional? text?)
    ({} : TraceSettings).nextAction t.nextAction
  names : t.names.SaidBy (given? partNames "variables" record)
  serverCount : PartIs (given? partNames "server_count_constant" record) text?
    ({} : TraceSettings).serverCount t.serverCount
  serverSet : PartIs (given? partNames "server_set_constant" record) text?
    ({} : TraceSettings).serverSet t.serverSet
  constants : PartIs (given? partNames "constants" record) Constants.ofDatum?
    ({} : TraceSettings).constants t.constants

theorem TraceSettings.saidBy_some_iff {d : Datum} {t : TraceSettings} :
    t.SaidBy (some d) ↔ TraceSettings.ofDatum? .ignored d = some t := by
  unfold TraceSettings.ofDatum?
  constructor
  · intro h
    obtain ⟨fields, hfields⟩ := exists_fields?_iff.2 (h.isRecord d rfl)
    rw [hfields, Option.bind_eq_bind, Option.bind_some]
    simp only [(part_eq_some_iff hfields).2 h.moduleName,
      (part_eq_some_iff hfields).2 h.initPredicate, (part_eq_some_iff hfields).2 h.nextAction,
      (part_eq_some_iff hfields).2 (VariableNames.partIs_iff.2 h.names),
      (part_eq_some_iff hfields).2 h.serverCount, (part_eq_some_iff hfields).2 h.serverSet,
      (part_eq_some_iff hfields).2 h.constants]
    rfl
  · intro h
    simp only [Option.bind_eq_bind, Option.bind_eq_some_iff] at h
    obtain ⟨fields, hfields, moduleName, hmoduleName, initPredicate, hinitPredicate, nextAction,
      hnextAction, names, hnames, serverCount, hserverCount, serverSet, hserverSet, constants,
      hconstants, ht⟩ := h
    cases ht
    exact {
      isRecord := fun d' hd' => Option.some.inj hd' ▸ exists_fields?_iff.1 ⟨fields, hfields⟩
      moduleName := (part_eq_some_iff hfields).1 hmoduleName
      initPredicate := (part_eq_some_iff hfields).1 hinitPredicate
      nextAction := (part_eq_some_iff hfields).1 hnextAction
      names := VariableNames.partIs_iff.1 ((part_eq_some_iff hfields).1 hnames)
      serverCount := (part_eq_some_iff hfields).1 hserverCount
      serverSet := (part_eq_some_iff hfields).1 hserverSet
      constants := (part_eq_some_iff hfields).1 hconstants }

theorem TraceSettings.saidBy_none_iff {t : TraceSettings} : t.SaidBy none ↔ t = {} := by
  constructor
  · rintro ⟨-, hmoduleName, hinitPredicate, hnextAction, hnames, hserverCount, hserverSet,
      hconstants⟩
    cases t
    cases hmoduleName
    cases hinitPredicate
    cases hnextAction
    cases VariableNames.saidBy_none_iff.1 hnames
    cases hserverCount
    cases hserverSet
    cases hconstants
    rfl
  · rintro rfl
    exact ⟨by simp, rfl, rfl, rfl, VariableNames.saidBy_none_iff.2 rfl, rfl, rfl, rfl⟩

/-- As a part of a larger record. -/
theorem TraceSettings.partIs_iff {record : Option Datum} {t : TraceSettings} :
    PartIs record (TraceSettings.ofDatum? .ignored) {} t ↔ t.SaidBy record := by
  cases record with
  | none => exact saidBy_none_iff.symm
  | some d => exact saidBy_some_iff.symm

/-! ### The settings -/

/-- The document says the settings.  Without a document they are the default ones. -/
structure Settings.SaidBy (document : Option Datum) (s : Settings) : Prop where
  isRecord : ∀ d ∈ document, d.IsRecord partNames
  marker : PartIs (given? partNames "marker" document) text? ({} : Settings).marker s.marker
  servers : PartIs (given? partNames "servers" document) (list? text?)
    ({} : Settings).servers s.servers
  outputDir : PartIs (given? partNames "output_dir" document) Path.ofDatum?
    ({} : Settings).outputDir s.outputDir
  jar : PartIs (given? partNames "tla2tools_jar" document) (optional? Path.ofDatum?)
    ({} : Settings).jar s.jar
  java : PartIs (given? partNames "java" document) Path.ofDatum? ({} : Settings).java s.java
  workers : PartIs (given? partNames "workers" document) (nat? max32)
    ({} : Settings).workers s.workers
  timeout : PartIs (given? partNames "checker_timeout_secs" document) (optional? (nat? max64))
    ({} : Settings).timeout s.timeout
  trace : s.trace.SaidBy (given? partNames "trace" document)

/-- **The settings that are read from a document are the ones that it says.** -/
theorem Settings.saidBy_some_iff {d : Datum} {s : Settings} :
    s.SaidBy (some d) ↔ Settings.ofDatum? .ignored d = some s := by
  unfold Settings.ofDatum?
  constructor
  · intro h
    obtain ⟨fields, hfields⟩ := exists_fields?_iff.2 (h.isRecord d rfl)
    rw [hfields, Option.bind_eq_bind, Option.bind_some]
    simp only [(part_eq_some_iff hfields).2 h.marker, (part_eq_some_iff hfields).2 h.servers,
      (part_eq_some_iff hfields).2 h.outputDir, (part_eq_some_iff hfields).2 h.jar,
      (part_eq_some_iff hfields).2 h.java, (part_eq_some_iff hfields).2 h.workers,
      (part_eq_some_iff hfields).2 h.timeout,
      (part_eq_some_iff hfields).2 (TraceSettings.partIs_iff.2 h.trace)]
    rfl
  · intro h
    simp only [Option.bind_eq_bind, Option.bind_eq_some_iff] at h
    obtain ⟨fields, hfields, marker, hmarker, servers, hservers, outputDir, houtputDir, jar, hjar,
      java, hjava, workers, hworkers, timeout, htimeout, trace, htrace, hs⟩ := h
    cases hs
    exact {
      isRecord := fun d' hd' => Option.some.inj hd' ▸ exists_fields?_iff.1 ⟨fields, hfields⟩
      marker := (part_eq_some_iff hfields).1 hmarker
      servers := (part_eq_some_iff hfields).1 hservers
      outputDir := (part_eq_some_iff hfields).1 houtputDir
      jar := (part_eq_some_iff hfields).1 hjar
      java := (part_eq_some_iff hfields).1 hjava
      workers := (part_eq_some_iff hfields).1 hworkers
      timeout := (part_eq_some_iff hfields).1 htimeout
      trace := TraceSettings.partIs_iff.1 ((part_eq_some_iff hfields).1 htrace) }

theorem Settings.saidBy_none_iff {s : Settings} : s.SaidBy none ↔ s = {} := by
  constructor
  · rintro ⟨-, hmarker, hservers, houtputDir, hjar, hjava, hworkers, htimeout, htrace⟩
    cases s
    cases hmarker
    cases hservers
    cases houtputDir
    cases hjar
    cases hjava
    cases hworkers
    cases htimeout
    cases TraceSettings.saidBy_none_iff.1 htrace
    rfl
  · rintro rfl
    exact ⟨by simp, rfl, rfl, rfl, rfl, rfl, rfl, rfl,
      TraceSettings.saidBy_none_iff.2 rfl⟩

end ReplicaTrace
