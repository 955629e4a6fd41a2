import Mathlib.Data.List.Infix
import ReplicaTrace.Proofs.Log.Reading
import ReplicaTrace.Proofs.Run.Stages
import ReplicaTrace.Proofs.Stream

/-!
# What a run comes to

A run splits its work: every file is read and put into the order of time by itself, the files are
merged, and only then events of other servers are left out.  The outcome is that of the plain way:
turn every line into its event, write the events of all files one after the other, sort them, keep
those of the registry's servers and replay them.

* `lineEvent?` : the event of one line.
* `timeline` : the events of all files in the order of time.
* `streamOf_reportsOf` : the merged stream of the files is the timeline.
* `exists_timeline_of_run` : a run replays the timeline.
-/

namespace ReplicaTrace

/-! ### The plain way -/

/-- The event of a line: a text with the marker in it that can be read and normalized. -/
def lineEvent? (marker : String) (source : Source) (number : ℕ) (bytes : Bytes) : Option Event := do
  let text ← Utf8.decode? bytes
  guard (marker.toList <:+: text)
  let line ← (LogLine.read source number text).toOption
  (Event.ofLine line).toOption

/-- The lines of a file with their numbers, which start at `1`. -/
def LogFile.lines (f : LogFile) : List (Bytes × ℕ) :=
  (splitLines f.data).zipIdx 1

/-- The events of a file, line by line. -/
def LogFile.events (marker : String) (rank : ℕ) (f : LogFile) : List Event :=
  f.lines.filterMap fun (bytes, number) => lineEvent? marker ⟨rank, f.location⟩ number bytes

/-- The events of all files, one file after the other. -/
def writtenEvents (marker : String) (files : List LogFile) : List Event :=
  (files.mapIdx (LogFile.events marker)).flatten

/-- The events of all files in the order of time; those of the same millisecond stay in the order
of their files and lines. -/
def timeline (marker : String) (files : List LogFile) : List Event :=
  inTimeOrder (writtenEvents marker files)

/-! ### The stream is the timeline -/

section

variable {marker : String} {source : Source} {number : ℕ} {bytes : Bytes}

theorem lineEvent?_eq_some_iff {e : Event} :
    lineEvent? marker source number bytes = some e ↔ ∃ text l, Utf8.decode? bytes = some text ∧
      marker.toList <:+: text ∧ LogLine.read source number text = .ok l ∧
        Event.ofLine l = .ok e := by
  simp [lineEvent?, Option.bind_eq_some_iff, toOption_eq_some_iff]

/-- The event names the file and the line. -/
theorem origin_of_lineEvent? {e : Event} (h : lineEvent? marker source number bytes = some e) :
    e.source = source ∧ e.line = number := by
  obtain ⟨text, l, -, -, hread, hevent⟩ := lineEvent?_eq_some_iff.1 h
  obtain ⟨_, _, _, _, _, -, -, -, -, -, rfl⟩ := LogLine.read_eq_ok_iff.1 hread
  exact Event.origin_of_ofLine hevent

/-- Apart from the file's name and place, an event does not depend on the file. -/
theorem lineEvent?_of_source {e : Event} (source' : Source)
    (h : lineEvent? marker source number bytes = some e) :
    lineEvent? marker source' number bytes = some { e with source := source' } := by
  obtain ⟨text, l, htext, hmarker, hread, hevent⟩ := lineEvent?_eq_some_iff.1 h
  obtain ⟨date, time, state, millis, fields, hdate, htime, hstate, hmillis, hfields, rfl⟩ :=
    LogLine.read_eq_ok_iff.1 hread
  obtain ⟨action, id, slotText, slot, ballotText, ballot, haction, hid, htext', hslot, hballot,
    hround, rfl⟩ := Event.ofLine_eq_ok_iff.1 hevent
  exact lineEvent?_eq_some_iff.2 ⟨text, _, htext, hmarker,
    LogLine.read_eq_ok_iff.2 ⟨date, time, state, millis, fields, hdate, htime, hstate, hmillis,
      hfields, rfl⟩,
    Event.ofLine_eq_ok_iff.2 ⟨action, id, slotText, slot, ballotText, ballot, haction, hid, htext',
      hslot, hballot, hround, rfl⟩⟩

theorem line?_readLine_bind :
    ((readLine marker source number bytes).line?.bind fun l => (Event.ofLine l).toOption) =
      lineEvent? marker source number bytes := by
  unfold readLine lineEvent?
  cases Utf8.decode? bytes with
  | none =>
    dsimp only
    split <;> rfl
  | some text =>
    dsimp only
    by_cases hmarker : marker.toList <:+: text
    · rw [if_pos (occursIn_iff.2 hmarker)]
      cases hread : LogLine.read source number text <;>
        simp [hmarker, hread, Reading.line?, Except.toOption]
    · rw [if_neg fun hocc => hmarker (occursIn_iff.1 hocc)]
      simp [hmarker, Reading.line?]

end

theorem readAllLines_eq_map_zipIdx (marker : String) (source : Source) (lines : List Bytes) :
    readAllLines marker source 0 lines =
      (lines.zipIdx 1).map fun (bytes, number) => readLine marker source number bytes := by
  apply List.ext_getElem
  · simp [readAllLines]
  · intro i h₁ h₂
    simp [readAllLines, Nat.add_comm]

theorem events_ofLines_readContents (marker : String) (source : Source) (data : Bytes) :
    (Normalized.ofLines (readContents marker source data).lines).events =
      ((splitLines data).zipIdx 1).filterMap fun (bytes, number) =>
        lineEvent? marker source number bytes := by
  simp only [Normalized.ofLines, readContents, Contents.ofReadings, readAllLines_eq_map_zipIdx,
    List.filterMap_filterMap, List.filterMap_map]
  exact List.filterMap_congr fun x _ => line?_readLine_bind

theorem events_report (marker : String) (rank : ℕ) (f : LogFile) :
    (f.report marker rank).events = inTimeOrder (f.events marker rank) := by
  simp only [LogFile.report, SourceReport.ofData, restoreOrder_eq, events_ofLines_readContents,
    LogFile.events, LogFile.lines]

/-- **Sorting every file and merging the files** is sorting the events of all files together. -/
theorem streamOf_reportsOf (marker : String) (files : List LogFile) :
    streamOf (reportsOf marker files) = timeline marker files := by
  have hsorted : (reportsOf marker files).map SourceReport.events =
      (files.mapIdx (LogFile.events marker)).map inTimeOrder := by
    apply List.ext_getElem
    · simp [reportsOf]
    · intro i h₁ h₂
      simp [reportsOf, events_report]
  rw [streamOf, hsorted, merge_map_inTimeOrder, timeline, writtenEvents]

theorem inTimeOrder_eq_insertionSort (events : List Event) :
    inTimeOrder events = events.insertionSort fun a b => a.notLater b = true :=
  mergeSort_eq_insertionSort_of_total Event.notLater_trans Event.notLater_total events

theorem mergeSort_notAfter_eq_insertionSort (reports : List SourceReport) :
    reports.mergeSort SourceReport.notAfter =
      reports.insertionSort fun a b => a.notAfter b = true :=
  mergeSort_eq_insertionSort_of_total SourceReport.notAfter_trans SourceReport.notAfter_total
    reports

/-! ### A run -/

/-- **A run replays the timeline.**  If a run ends with an outcome, its log files were found, and
whatever bytes they hold: the registry is the given one or that of the timeline's servers, the
history is the replay of the timeline's events of these servers, and the violations are those of
the replay. -/
theorem exists_timeline_of_run {s : Settings} {inputs : RunInputs} {o : Outcome} {w w' : World}
    (h : (run (m := Sandbox) s inputs).run.run w = (.ok o, w')) :
    ∃ files, FoundIn w inputs.logs files ∧
      registryFor s.serverIds (timeline s.marker files) = .ok o.analysis.registry ∧
      Replay.run o.analysis.registry
          ((timeline s.marker files).filter fun e => e.server ∈ o.analysis.registry.ids) =
        .ok o.analysis.replay ∧
      o.analysis.ledger.violations = o.analysis.replay.violations.toList := by
  obtain ⟨stages⟩ := nonempty_stages_of_run h
  obtain ⟨hregistry, -, hreplay, hledger⟩ := stages.analysed
  rw [streamOf_reportsOf] at hregistry hreplay
  rw [Registry.knows_eq] at hreplay
  refine ⟨stages.files, stages.files_found, hregistry, hreplay, ?_⟩
  rw [hledger]
  rfl

/-! ### An example -/

/-- Two log files: the first has a line that is no text and goes back in time at its end, the second
starts in the same millisecond and has an event of a server that is not given. -/
def mixedWorld : World where
  disk := ⟨[
    (["a.log"], .file (Utf8.encode "[T] ".toList ++ [0xFF, lineFeed] ++ Utf8.encode (
      "[T] 2024/01/01 00:00:00.002 p.go:1: ID:0,action:P2a,slot:1,ballot:1.0.1\n" ++
      "[T] lost\n" ++
      "[T] 2024/01/01 00:00:00.001 p.go:1: ID:0,action:P3,slot:2,ballot:1.0.1\n").toList)),
    (["b.log"], .file (Utf8.encode (
      "[T] 2024/01/01 00:00:00.002 p.go:2: ID:1,action:P1b,slot:1,ballot:1.0.1\n" ++
      "[T] 2024/01/01 00:00:00.003 p.go:2: ID:9,action:P1b,slot:1,ballot:1.0.1\n").toList)),
    (["P.tla"], .file [])]⟩
  workingDir := []
  environment := []
  programs := []
  started := []

/-- Settings with two servers. -/
def mixedSettings : Settings where
  marker := "[T]"
  servers := ["0", "1"]

/-- The two log files are given, and the model checker is left out. -/
def mixedInputs : RunInputs where
  logs := [⟨"a.log"⟩, ⟨"b.log"⟩]
  spec := ⟨"P.tla"⟩
  skipCheck := true

theorem exists_outcome_mixedWorld :
    ∃ o w', (run (m := Sandbox) mixedSettings mixedInputs).run.run mixedWorld = (.ok o, w') ∧
      o.analysis.ledger.merged = 3 ∧ o.analysis.ledger.violations.length = 1 ∧
      o.analysis.ledger.skipped.length = 3 := by
  -- the kernel computes insertions, not the library's sorting
  have hcomputed : ((run (m := Sandbox) mixedSettings mixedInputs).run.run mixedWorld).1.toOption.map
      (fun o => (o.analysis.ledger.merged, o.analysis.ledger.violations.length,
        o.analysis.ledger.skipped.length)) = some (3, 1, 3) := by
    simp only [run, readSources, gather, readSource, SourceReport.ofData,
      mergeSort_notAfter_eq_insertionSort, restoreOrder_eq, inTimeOrder_eq_insertionSort]
    decide +kernel
  rcases hrun : (run (m := Sandbox) mixedSettings mixedInputs).run.run mixedWorld with ⟨e | o, w'⟩
  · rw [hrun] at hcomputed
    cases hcomputed
  · rw [hrun] at hcomputed
    exact ⟨o, w', rfl, by simpa [Except.toOption] using hcomputed⟩

theorem exists_timeline_of_run_mixedWorld :
    ∃ o w', (run (m := Sandbox) mixedSettings mixedInputs).run.run mixedWorld = (.ok o, w') ∧
      ∃ files, FoundIn mixedWorld mixedInputs.logs files ∧
        registryFor mixedSettings.serverIds (timeline mixedSettings.marker files) =
          .ok o.analysis.registry ∧
        Replay.run o.analysis.registry ((timeline mixedSettings.marker files).filter
          fun e => e.server ∈ o.analysis.registry.ids) = .ok o.analysis.replay ∧
        o.analysis.ledger.violations = o.analysis.replay.violations.toList := by
  obtain ⟨o, w', hrun, -⟩ := exists_outcome_mixedWorld
  exact ⟨o, w', hrun, exists_timeline_of_run hrun⟩

end ReplicaTrace
