import ReplicaTrace.Proofs.History.Snapshots
import ReplicaTrace.Proofs.Run.Balance

/-!
# What becomes of the relevant lines

Every relevant line gives an event of the history or is listed as left out, never both, and the
counts of a run say how many lines took each way.

* `Analysed.tally_eq` : the counts of a run are those of its files and the events of other servers.
* `Analysed.disjoint` : no line is both in the history and left out.
* `Accounts`, `exists_accounts_of_run` : the accounts of a run.
-/

namespace ReplicaTrace

/-! ### The counters -/

theorem tally_foldl_absorb (l : Ledger) (reports : List SourceReport) :
    (reports.foldl Ledger.absorb l).tally =
      l.tally + Tally.sum (reports.map SourceReport.tally) := by
  induction reports generalizing l with
  | nil => exact (Tally.add_zero _).symm
  | cons r rs ih =>
    rw [List.foldl_cons, ih, List.map_cons, Tally.sum_cons, ← Tally.add_assoc]
    rfl

theorem tally_foldl_skipUnknown (l : Ledger) (others : List Event) :
    (others.foldl Ledger.skipUnknown l).tally =
      { l.tally with unknownServer := l.tally.unknownServer + others.length } := by
  induction others generalizing l with
  | nil => rfl
  | cons e es ih =>
    rw [List.foldl_cons, ih, List.length_cons, Nat.add_comm es.length, ← Nat.add_assoc]
    rfl

/-- A file counts no event of an unknown server, since it knows nothing of the registry. -/
theorem LogFile.unknownServer_report (marker : String) (rank : ℕ) (f : LogFile) :
    (f.report marker rank).tally.unknownServer = 0 := by
  have hreason : ∀ k ∈ (f.report marker rank).skipped, k.reason ≠ .unknownServer := by
    intro k hk
    rcases List.mem_append.1 hk with hk | hk
    · obtain ⟨e, -, rfl⟩ := List.mem_map.1 hk
      exact SkipReason.noConfusion
    · obtain ⟨⟨number, e⟩, -, rfl⟩ := List.mem_map.1 hk
      cases e <;> exact SkipReason.noConfusion
  have hcount := (f.balanced_report marker rank).reasons .unknownServer
  rw [List.countP_eq_zero.2 fun k hk => by simpa using hreason k hk] at hcount
  exact hcount

theorem unknownServer_sum_reportsOf (marker : String) (files : List LogFile) :
    (Tally.sum ((reportsOf marker files).map SourceReport.tally)).unknownServer = 0 := by
  induction files using List.reverseRecOn with
  | nil => rfl
  | append_singleton files f ih =>
    rw [reportsOf, List.mapIdx_concat, ← reportsOf, List.map_append, Tally.sum, List.foldl_append,
      ← Tally.sum, List.map_singleton, List.foldl_cons, List.foldl_nil]
    exact congrArg₂ (· + ·) ih (f.unknownServer_report marker files.length)

theorem Analysed.tally_eq {servers : List ServerId} {marker : String} {files : List LogFile}
    {a : Analysis} (h : Analysed servers (reportsOf marker files) a) :
    a.ledger.tally = { Tally.sum ((reportsOf marker files).map SourceReport.tally) with
      unknownServer := ((timeline marker files).filter (!a.registry.knows ·)).length } := by
  have hempty : ({} : Ledger).tally = 0 := rfl
  rw [h.ledger, streamOf_reportsOf]
  change (List.foldl Ledger.skipUnknown _ _).tally = _
  rw [tally_foldl_skipUnknown, tally_foldl_absorb, hempty, Tally.zero_add,
    unknownServer_sum_reportsOf, Nat.zero_add]

/-! ### Events and what is left out -/

theorem mem_lines_iff {f : LogFile} {bytes : Bytes} {number : ℕ} :
    (bytes, number) ∈ f.lines ↔ 1 ≤ number ∧ (splitLines f.data)[number - 1]? = some bytes :=
  List.mk_mem_zipIdx_iff_le_and_getElem?_sub

/-- A line that a file lists as left out gives no event. -/
theorem LogFile.lineEvent?_of_mem_skipped {marker : String} {rank : ℕ} {f : LogFile} {k : Skipped}
    (h : k ∈ (f.report marker rank).skipped) :
    k.source = f.location ∧ ∃ bytes, (bytes, k.line) ∈ f.lines ∧
      lineEvent? marker ⟨rank, f.location⟩ k.line bytes = none := by
  have h : k ∈ skippedOf ⟨rank, f.location⟩ (readContents marker ⟨rank, f.location⟩ f.data) := h
  rw [readContents_eq_ofReadings] at h
  rcases List.mem_append.1 h with h | h
  · -- the line could not be read
    obtain ⟨e, he, rfl⟩ := List.mem_map.1 h
    obtain ⟨_, hr, hfault⟩ := List.mem_filterMap.1 he
    obtain ⟨⟨bytes, number⟩, hline, rfl⟩ := List.mem_map.1 hr
    have hread := Reading.fault?_eq_some_iff.1 hfault
    obtain rfl := line_of_readLine_eq_fault hread
    refine ⟨rfl, bytes, hline, ?_⟩
    change lineEvent? marker ⟨rank, f.location⟩ e.line bytes = none
    rw [← line?_readLine_bind, hread]
    rfl
  · -- the line was read and gives no event
    obtain ⟨⟨_, e⟩, he, rfl⟩ := List.mem_map.1 h
    obtain ⟨l, hl, hfault⟩ := List.mem_filterMap.1 he
    obtain ⟨_, hr, hsome⟩ := List.mem_filterMap.1 hl
    obtain ⟨⟨bytes, number⟩, hline, rfl⟩ := List.mem_map.1 hr
    have hread := Reading.line?_eq_some_iff.1 hsome
    obtain ⟨-, rfl⟩ := origin_of_readLine_eq_line hread
    cases hevent : Event.ofLine l with
    | ok _ => simp [hevent] at hfault
    | error e' =>
      obtain ⟨rfl, rfl⟩ : l.number = _ ∧ e' = e := by simpa [hevent] using hfault
      refine ⟨rfl, bytes, hline, ?_⟩
      change lineEvent? marker ⟨rank, f.location⟩ l.number bytes = none
      rw [← line?_readLine_bind, hread]
      simp [Reading.line?, hevent, Except.toOption]

theorem LogFile.mem_events_iff {marker : String} {rank : ℕ} {f : LogFile} {e : Event} :
    e ∈ f.events marker rank ↔ ∃ bytes, (bytes, e.line) ∈ f.lines ∧
      lineEvent? marker ⟨rank, f.location⟩ e.line bytes = some e := by
  rw [LogFile.events, List.mem_filterMap]
  constructor
  · rintro ⟨⟨bytes, number⟩, hline, hevent⟩
    obtain ⟨-, rfl⟩ := origin_of_lineEvent? hevent
    exact ⟨bytes, hline, hevent⟩
  · rintro ⟨bytes, hline, hevent⟩
    exact ⟨_, hline, hevent⟩

theorem FoundIn.read_eq {w : World} {logs : List Path} {files : List LogFile} {f : LogFile}
    (h : FoundIn w logs files) (hf : f ∈ files) :
    w.disk.read w.workingDir ⟨f.location⟩ = .ok f.data := by
  induction h with
  | nil => cases hf
  | cons hfirst _ ih =>
    rcases List.mem_cons.1 hf with rfl | hf
    · rw [hfirst.1]
      exact hfirst.2
    · exact ih hf

theorem mem_timeline_iff {marker : String} {files : List LogFile} {e : Event} :
    e ∈ timeline marker files ↔
      ∃ (i : ℕ) (f : LogFile), files[i]? = some f ∧ e ∈ f.events marker i := by
  rw [timeline, (inTimeOrder_perm _).mem_iff, writtenEvents, List.mem_flatten]
  constructor
  · rintro ⟨_, hes, he⟩
    obtain ⟨i, hi, rfl⟩ := List.mem_mapIdx.1 hes
    exact ⟨i, files[i], List.getElem?_eq_getElem hi, he⟩
  · rintro ⟨i, f, hf, he⟩
    obtain ⟨hi, rfl⟩ := List.getElem?_eq_some_iff.1 hf
    exact ⟨_, List.mem_mapIdx.2 ⟨i, hi, rfl⟩, he⟩

theorem mem_reportsOf_iff {marker : String} {files : List LogFile} {r : SourceReport} :
    r ∈ reportsOf marker files ↔
      ∃ (i : ℕ) (f : LogFile), files[i]? = some f ∧ r = f.report marker i := by
  rw [reportsOf, List.mem_mapIdx]
  constructor
  · rintro ⟨i, hi, rfl⟩
    exact ⟨i, files[i], List.getElem?_eq_getElem hi, rfl⟩
  · rintro ⟨i, f, hf, rfl⟩
    obtain ⟨hi, rfl⟩ := List.getElem?_eq_some_iff.1 hf
    exact ⟨i, hi, rfl⟩

theorem skipped_foldl_absorb (l : Ledger) (reports : List SourceReport) :
    (reports.foldl Ledger.absorb l).skipped =
      l.skipped ++ reports.flatMap SourceReport.skipped := by
  induction reports generalizing l with
  | nil => exact (List.append_nil _).symm
  | cons r rs ih =>
    rw [List.foldl_cons, ih, List.flatMap_cons, ← List.append_assoc]
    rfl

theorem mem_skipped_foldl_skipUnknown {l : Ledger} {others : List Event} {k : Skipped}
    (h : k ∈ (others.foldl Ledger.skipUnknown l).skipped) :
    k ∈ l.skipped ∨ ∃ e ∈ others, k.place = e.place := by
  induction others generalizing l with
  | nil => exact .inl h
  | cons e es ih =>
    rcases ih h with hk | ⟨e', he', hplace⟩
    · rcases List.mem_append.1 hk with hk | hk
      · exact .inl hk
      · obtain rfl := List.mem_singleton.1 hk
        exact .inr ⟨e, List.mem_cons_self, rfl⟩
    · exact .inr ⟨e', List.mem_cons_of_mem _ he', hplace⟩

/-- A name stands for one file, and a number for one of its lines. -/
theorem FoundIn.line_eq {w : World} {logs : List Path} {files : List LogFile} {f g : LogFile}
    {bytes bytes' : Bytes} {number : ℕ} (h : FoundIn w logs files) (hf : f ∈ files) (hg : g ∈ files)
    (hlocation : f.location = g.location) (hline : (bytes, number) ∈ f.lines)
    (hline' : (bytes', number) ∈ g.lines) : bytes = bytes' := by
  have hdata : f.data = g.data := by
    have hread := h.read_eq hf
    rw [hlocation, h.read_eq hg] at hread
    exact (Except.ok.inj hread).symm
  rw [mem_lines_iff] at hline hline'
  rw [hdata, hline'.2] at hline
  exact (Option.some.inj hline.2).symm

/-- Wherever a line stands at the place of an event, it gives this event, but for the rank. -/
theorem FoundIn.lineEvent?_of_mem_timeline {w : World} {logs : List Path} {files : List LogFile}
    {marker : String} {e : Event} {g : LogFile} {bytes : Bytes} (h : FoundIn w logs files)
    (he : e ∈ timeline marker files) (rank : ℕ) (hg : g ∈ files)
    (hlocation : e.source.location = g.location) (hline : (bytes, e.line) ∈ g.lines) :
    lineEvent? marker ⟨rank, g.location⟩ e.line bytes =
      some { e with source := ⟨rank, g.location⟩ } := by
  obtain ⟨i, f, hf, he⟩ := mem_timeline_iff.1 he
  obtain ⟨bytes', hline', hevent⟩ := LogFile.mem_events_iff.1 he
  rw [(origin_of_lineEvent? hevent).1] at hlocation
  obtain rfl := h.line_eq (List.mem_of_getElem? hf) hg hlocation hline' hline
  exact lineEvent?_of_source _ hevent

theorem Analysed.disjoint {servers : List ServerId} {marker : String} {files : List LogFile}
    {a : Analysis} {w : World} {logs : List Path} (hfound : FoundIn w logs files)
    (h : Analysed servers (reportsOf marker files) a) :
    List.Disjoint (((timeline marker files).filter a.registry.knows).map Event.place)
      (a.ledger.skipped.map Skipped.place) := by
  intro place hkept hout
  obtain ⟨e, he, rfl⟩ := List.mem_map.1 hkept
  obtain ⟨k, hk, hplace⟩ := List.mem_map.1 hout
  obtain ⟨he, hknown⟩ := List.mem_filter.1 he
  rw [h.ledger, streamOf_reportsOf] at hk
  rcases mem_skipped_foldl_skipUnknown hk with hk | ⟨e', he', hplace'⟩
  · -- the line at this place would give no event in a file of the same name
    rw [skipped_foldl_absorb, List.nil_append] at hk
    obtain ⟨r, hr, hk⟩ := List.mem_flatMap.1 hk
    obtain ⟨j, g, hg, rfl⟩ := mem_reportsOf_iff.1 hr
    obtain ⟨hlocation, bytes, hline, hnone⟩ := LogFile.lineEvent?_of_mem_skipped hk
    obtain ⟨hsource, hnumber⟩ : k.source = e.source.location ∧ k.line = e.line :=
      Prod.mk.inj hplace
    rw [hnumber] at hline hnone
    have hsome := hfound.lineEvent?_of_mem_timeline he j (List.mem_of_getElem? hg)
      (hsource.symm.trans hlocation) hline
    cases hnone.symm.trans hsome
  · -- the line at this place would give an event of another server
    obtain ⟨he', hunknown⟩ := List.mem_filter.1 he'
    obtain ⟨j, g, hg, he'⟩ := mem_timeline_iff.1 he'
    obtain ⟨bytes, hline, hevent'⟩ := LogFile.mem_events_iff.1 he'
    obtain ⟨hsource, hnumber⟩ : e'.source.location = e.source.location ∧ e'.line = e.line :=
      Prod.mk.inj (hplace'.symm.trans hplace)
    rw [(origin_of_lineEvent? hevent').1] at hsource
    rw [hnumber] at hline hevent'
    have hevent := hfound.lineEvent?_of_mem_timeline he j (List.mem_of_getElem? hg)
      hsource.symm hline
    have hsame := Option.some.inj (hevent'.symm.trans hevent)
    have hserver : a.registry.knows e' = a.registry.knows e := by rw [hsame]; rfl
    rw [hserver, hknown] at hunknown
    cases hunknown

/-! ### A run -/

/-- **The accounts of a run** over files with the given marker. -/
structure Accounts (marker : String) (files : List LogFile) (a : Analysis) : Prop where
  /-- The history is that of the events of the registry's servers. -/
  replay : Replay.run a.registry
    ((timeline marker files).filter fun e => e.server ∈ a.registry.ids) = .ok a.replay
  /-- The relevant lines are counted. -/
  relevant : a.ledger.tally.matched = (files.flatMap (LogFile.relevant marker)).length
  /-- Every relevant line was replayed or left out. -/
  matched : a.ledger.tally.matched = a.ledger.merged + a.ledger.tally.skippedTotal
  /-- Every event that was replayed gave a snapshot. -/
  merged : a.ledger.merged = a.ledger.snapshots ∧ a.ledger.snapshots = a.replay.snapshots.length
  /-- For every reason as many are counted as listed. -/
  reasons : ∀ reason, a.ledger.tally.skipped reason =
    a.ledger.skipped.countP fun k => k.reason = reason
  /-- The counts are those of the files together, and the events of other servers. -/
  tally : a.ledger.tally = { Tally.sum ((reportsOf marker files).map SourceReport.tally) with
    unknownServer := ((timeline marker files).filter fun e => e.server ∉ a.registry.ids).length }
  /-- Every relevant line stands once in the history or among what was left out. -/
  places : (files.flatMap (LogFile.relevant marker)).Perm
    (((timeline marker files).filter fun e => e.server ∈ a.registry.ids).map Event.place ++
      a.ledger.skipped.map Skipped.place)
  /-- No line stands in both. -/
  disjoint : List.Disjoint
    (((timeline marker files).filter fun e => e.server ∈ a.registry.ids).map Event.place)
    (a.ledger.skipped.map Skipped.place)
  /-- The subtraction in the count of what was kept is one of numbers. -/
  kept : a.ledger.tally.skippedTotal ≤ a.ledger.tally.matched ∧
    a.ledger.tally.kept = a.ledger.merged

theorem Analysed.accounts {servers : List ServerId} {marker : String} {files : List LogFile}
    {a : Analysis} {w : World} {logs : List Path} (hfound : FoundIn w logs files)
    (h : Analysed servers (reportsOf marker files) a) : Accounts marker files a := by
  have hreplay := h.replay
  have hbalanced := h.balanced
  have hdisjoint := h.disjoint hfound
  have htally := h.tally_eq
  have hmerged : a.ledger.merged = ((timeline marker files).filter a.registry.knows).length := by
    rw [h.ledger, streamOf_reportsOf]
    rfl
  have hsnapshots : a.ledger.snapshots = a.replay.snapshots.length := by
    rw [h.ledger]
    rfl
  have hmatched := hbalanced.matched_eq
  rw [← hmerged] at hmatched
  rw [streamOf_reportsOf] at hreplay
  have hlength : a.replay.snapshots.length = a.ledger.merged := by
    rw [Replay.run_eq_ofEvents fun e he => (List.mem_filter.1 he).2] at hreplay
    rw [← Except.ok.inj hreplay, Replay.length_snapshots_ofEvents, hmerged]
  simp only [Registry.knows_eq, ← decide_not] at hreplay hbalanced hdisjoint htally
  exact
    { replay := hreplay
      relevant := hbalanced.matched
      matched := hmatched
      merged := ⟨(hsnapshots.trans hlength).symm, hsnapshots⟩
      reasons := hbalanced.reasons
      tally := htally
      places := hbalanced.places
      disjoint := hdisjoint
      kept := ⟨by omega, by rw [Tally.kept, hmatched, Nat.add_sub_cancel]⟩ }

/-- **Every relevant line is accounted for once.**  If a run ends with an outcome, its log files
were found, and its counts, its history and what it left out agree with their relevant lines. -/
theorem exists_accounts_of_run {s : Settings} {inputs : RunInputs} {o : Outcome} {w w' : World}
    (h : (run (m := Sandbox) s inputs).run.run w = (.ok o, w')) :
    ∃ files, FoundIn w inputs.logs files ∧ Accounts s.marker files o.analysis := by
  obtain ⟨stages⟩ := nonempty_stages_of_run h
  exact ⟨stages.files, stages.files_found, stages.analysed.accounts stages.files_found⟩

theorem exists_accounts_of_run_mixedWorld :
    ∃ o w', (run (m := Sandbox) mixedSettings mixedInputs).run.run mixedWorld = (.ok o, w') ∧
      ∃ files, FoundIn mixedWorld mixedInputs.logs files ∧
        Accounts mixedSettings.marker files o.analysis := by
  obtain ⟨o, w', hrun, -⟩ := exists_outcome_mixedWorld
  exact ⟨o, w', hrun, exists_accounts_of_run hrun⟩

end ReplicaTrace
