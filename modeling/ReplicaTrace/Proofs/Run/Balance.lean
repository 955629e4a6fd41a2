import Mathlib.Data.List.Induction
import ReplicaTrace.Proofs.Log.Relevance
import ReplicaTrace.Proofs.Run.Reference

/-!
# Counts and lists that agree

The counts of a run and the lists of what became of the lines are kept apart: line by line, file by
file and for the whole run.  What ties them together is that they *balance*, and every step of the
bookkeeping preserves that.

* `Balanced` : counts, events and what is left out agree with the relevant lines.
* `LogFile.balanced_report` : the report of a file balances.
* `balanced_foldl_absorb`, `balanced_foldl_skipUnknown` : so does the ledger, step after step.
* `Analysed.balanced` : so does an analysis.
-/

namespace ReplicaTrace

/-! ### Places -/

/-- A line of a file: the name of the file and the number of the line. -/
abbrev Place := String × ℕ

/-- The line that reports the event. -/
def Event.place (e : Event) : Place := (e.source.location, e.line)

/-- The line that was left out. -/
def Skipped.place (k : Skipped) : Place := (k.source, k.line)

/-- The relevant lines of a file. -/
def LogFile.relevant (marker : String) (f : LogFile) : List Place :=
  (f.lines.filter fun x => IsRelevant marker x.1).map fun x => (f.location, x.2)

/-! ### Balance -/

/-- **The books balance**: of some relevant lines so many are counted, for every reason as many are
counted as listed, and every line stands once among the events and what is left out. -/
structure Balanced (places : List Place) (t : Tally) (events : List Event)
    (skipped : List Skipped) : Prop where
  matched : t.matched = places.length
  reasons : ∀ reason, t.skipped reason = skipped.countP fun k => k.reason = reason
  places : places.Perm (events.map Event.place ++ skipped.map Skipped.place)

theorem length_eq_countP_reasons (skipped : List Skipped) :
    skipped.length = skipped.countP (fun k => k.reason = .malformedLine) +
      skipped.countP (fun k => k.reason = .missingField) +
      skipped.countP (fun k => k.reason = .format) +
      skipped.countP (fun k => k.reason = .unknownServer) := by
  induction skipped with
  | nil => rfl
  | cons k ks ih =>
    simp only [List.length_cons, List.countP_cons, ih]
    cases k.reason <;> simp <;> omega

namespace Balanced

variable {ps ps' : List Place} {t t' : Tally} {es es' : List Event} {ks ks' : List Skipped}

theorem nil : Balanced [] 0 [] [] :=
  ⟨rfl, fun reason => by cases reason <;> rfl, .refl _⟩

/-- Every line counted is an event or was left out. -/
theorem matched_eq (h : Balanced ps t es ks) : t.matched = es.length + t.skippedTotal := by
  rw [h.matched, h.places.length_eq, List.length_append, List.length_map, List.length_map,
    length_eq_countP_reasons ks, Tally.skippedTotal_eq, h.reasons, h.reasons, h.reasons, h.reasons]

theorem append (h : Balanced ps t es ks) (h' : Balanced ps' t' es' ks') :
    Balanced (ps ++ ps') (t + t') (es ++ es') (ks ++ ks') where
  matched := by rw [List.length_append, ← h.matched, ← h'.matched]; rfl
  reasons reason := by rw [Tally.skipped_add, h.reasons, h'.reasons, List.countP_append]
  places := by
    rw [List.map_append, List.map_append]
    refine (h.places.append h'.places).trans ?_
    simp only [List.append_assoc]
    refine List.Perm.append_left _ ?_
    simp only [← List.append_assoc]
    exact List.perm_append_comm.append_right _

theorem perm (h : Balanced ps t es ks) (hes : es.Perm es') (hks : ks.Perm ks') :
    Balanced ps t es' ks' where
  matched := h.matched
  reasons reason := by rw [h.reasons, hks.countP_eq]
  places := h.places.trans ((hes.map _).append (hks.map _))

/-- Other counts do not matter. -/
theorem of_counts (h : Balanced ps t es ks) (hmatched : t'.matched = t.matched)
    (hreasons : ∀ reason, t'.skipped reason = t.skipped reason) : Balanced ps t' es ks :=
  ⟨hmatched.trans h.matched, fun reason => (hreasons reason).trans (h.reasons reason), h.places⟩

/-- One more relevant line gives an event. -/
theorem cons_event (h : Balanced ps t es ks) (e : Event) (hmatched : t'.matched = t.matched + 1)
    (hreasons : ∀ reason, t'.skipped reason = t.skipped reason) :
    Balanced (e.place :: ps) t' (e :: es) ks where
  matched := by rw [hmatched, h.matched, List.length_cons]
  reasons reason := by rw [hreasons, h.reasons]
  places := h.places.cons _

/-- One more relevant line is left out. -/
theorem cons_skipped (h : Balanced ps t es ks) (k : Skipped) (hmatched : t'.matched = t.matched + 1)
    (hreasons : ∀ reason, t'.skipped reason = t.skipped reason + if k.reason = reason then 1 else 0) :
    Balanced (k.place :: ps) t' es (k :: ks) where
  matched := by rw [hmatched, h.matched, List.length_cons]
  reasons reason := by simp only [hreasons, h.reasons, List.countP_cons, decide_eq_true_eq]
  places := (h.places.cons _).trans List.perm_middle.symm

/-- An event is left out after all. -/
theorem leave_event {e : Event} (h : Balanced ps t (e :: es) ks) (k : Skipped)
    (hplace : k.place = e.place) : Balanced ps (t + .skip k.reason) es (ks ++ [k]) where
  matched := by rw [← h.matched]; cases k.reason <;> rfl
  reasons reason := by
    rw [Tally.skipped_add, h.reasons, List.countP_append, List.countP_singleton]
    cases k.reason <;> cases reason <;> rfl
  places := by
    refine h.places.trans ?_
    rw [List.map_cons, List.map_append, List.map_singleton, hplace, ← List.append_assoc,
      List.cons_append]
    exact (List.perm_append_singleton _ _).symm

end Balanced

/-! ### One file -/

@[simp] theorem Tally.matched_add (t u : Tally) : (t + u).matched = t.matched + u.matched := rfl

theorem Tally.skipped_skip (reason reason' : SkipReason) :
    (Tally.skip reason).skipped reason' = if reason = reason' then 1 else 0 := by
  cases reason <;> cases reason' <;> rfl

theorem Tally.matched_skip (reason : SkipReason) : (Tally.skip reason).matched = 0 := by
  cases reason <;> rfl

theorem Contents.ofReadings_cons (r : Reading) (rs : List Reading) :
    ofReadings (r :: rs) = ⟨r.line?.toList ++ (ofReadings rs).lines,
      r.fault?.toList ++ (ofReadings rs).faults, r.tally + (ofReadings rs).tally⟩ := by
  simp only [ofReadings, List.map_cons, Tally.sum_cons]
  cases r <;> rfl

theorem Reading.matched_tally_fault (e : LineError) : (fault e).tally.matched = 1 := by
  cases e <;> rfl

theorem Reading.skipped_tally_fault (e : LineError) (reason : SkipReason) :
    (fault e).tally.skipped reason = if SkipReason.malformedLine = reason then 1 else 0 := by
  cases e <;> cases reason <;> rfl

theorem Reading.skipped_tally_line (l : LogLine) (reason : SkipReason) :
    (line l).tally.skipped reason = 0 := by
  cases reason <;> rfl

/-- What is left out of a file, as its report lists it. -/
def skippedOf (source : Source) (c : Contents) : List Skipped :=
  c.faults.map (fun e => SourceReport.skip source e.line .malformedLine e.message) ++
    (Normalized.ofLines c.lines).faults.map fun x =>
      SourceReport.skip source x.1 x.2.reason x.2.message

/-- Some lines of a file balance when they were read and normalized. -/
def BalancedReadings (source : Source) (readings : List Reading) : Prop :=
  Balanced ((readings.filterMap Reading.relevant?).map fun number => (source.location, number))
    ((Contents.ofReadings readings).tally +
      (Normalized.ofLines (Contents.ofReadings readings).lines).tally)
    (Normalized.ofLines (Contents.ofReadings readings).lines).events
    (skippedOf source (.ofReadings readings))

section

variable {source : Source} {rs : List Reading}

theorem BalancedReadings.cons_irrelevant (h : BalancedReadings source rs) (isText : Bool) :
    BalancedReadings source (.irrelevant isText :: rs) := by
  unfold BalancedReadings
  rw [Contents.ofReadings_cons]
  refine Balanced.of_counts h ?_ fun reason => ?_
  · change _ + _ + _ = _ + _
    rw [Reading.tally, Nat.zero_add]
    rfl
  · rw [Tally.add_assoc, Tally.skipped_add]
    cases reason <;> exact Nat.zero_add _

theorem BalancedReadings.cons_fault (h : BalancedReadings source rs) (e : LineError) :
    BalancedReadings source (.fault e :: rs) := by
  unfold BalancedReadings
  rw [Contents.ofReadings_cons]
  refine Balanced.cons_skipped h (SourceReport.skip source e.line .malformedLine e.message) ?_
    fun reason => ?_
  · rw [Tally.add_assoc, Tally.matched_add, Reading.matched_tally_fault, Nat.add_comm]
    rfl
  · rw [Tally.add_assoc, Tally.skipped_add, Reading.skipped_tally_fault, Nat.add_comm]
    rfl

theorem BalancedReadings.cons_line (h : BalancedReadings source rs) {l : LogLine}
    (hl : l.source = source) : BalancedReadings source (.line l :: rs) := by
  unfold BalancedReadings skippedOf at *
  rw [Contents.ofReadings_cons]
  simp only [Reading.line?, Reading.fault?, Option.toList_none, Option.toList_some,
    List.nil_append, List.singleton_append]
  cases hevent : Event.ofLine l with
  | ok e =>
    obtain ⟨hsource, hline⟩ := Event.origin_of_ofLine hevent
    have hplace : e.place = (source.location, l.number) := by
      rw [Event.place, hsource, hline, hl]
    simp only [Normalized.ofLines_cons_of_ok _ hevent]
    change Balanced ((source.location, l.number) :: _) _ _ _
    rw [← hplace]
    refine Balanced.cons_event h e ?_ fun reason => ?_
    · simp [Reading.tally]
      omega
    · simp only [Tally.skipped_add, Reading.skipped_tally_line]
      cases reason <;> simp [Tally.skipped]
  | error e =>
    simp only [Normalized.ofLines_cons_of_error _ hevent]
    rw [List.map_cons]
    refine (Balanced.cons_skipped h (SourceReport.skip source l.number e.reason e.message) ?_
      fun reason => ?_).perm (.refl _) List.perm_middle.symm
    · simp [Reading.tally, Tally.matched_skip]
      omega
    · change _ = _ + if e.reason = reason then 1 else 0
      simp only [Tally.skipped_add, Tally.skipped_skip, Reading.skipped_tally_line]
      omega

end

/-- Reading lines and normalizing them balances. -/
theorem balanced_ofReadings (source : Source) (readings : List Reading)
    (hsource : ∀ l, Reading.line l ∈ readings → l.source = source) :
    BalancedReadings source readings := by
  induction readings with
  | nil => exact Balanced.nil
  | cons r rs ih =>
    have ih := ih fun l hl => hsource l (List.mem_cons_of_mem _ hl)
    cases r with
    | irrelevant isText => exact ih.cons_irrelevant isText
    | fault e => exact ih.cons_fault e
    | line l => exact ih.cons_line (hsource l List.mem_cons_self)

theorem filterMap_relevant?_readLine (marker : String) (source : Source) (xs : List (Bytes × ℕ)) :
    (xs.map fun x => readLine marker source x.2 x.1).filterMap Reading.relevant? =
      (xs.filter fun x => IsRelevant marker x.1).map Prod.snd := by
  induction xs with
  | nil => rfl
  | cons x xs ih =>
    rw [List.map_cons, List.filterMap_cons, relevant?_readLine, List.filter_cons, ih]
    by_cases hrel : IsRelevant marker x.1 <;> simp [hrel]

theorem readContents_eq_ofReadings (marker : String) (source : Source) (f : LogFile) :
    readContents marker source f.data =
      .ofReadings (f.lines.map fun x => readLine marker source x.2 x.1) := by
  rw [readContents, readAllLines_eq_map_zipIdx]
  rfl

/-- **The report of a file balances.** -/
theorem LogFile.balanced_report (marker : String) (rank : ℕ) (f : LogFile) :
    Balanced (f.relevant marker) (f.report marker rank).tally (f.report marker rank).events
      (f.report marker rank).skipped := by
  have hreadings := balanced_ofReadings ⟨rank, f.location⟩
    (f.lines.map fun x => readLine marker ⟨rank, f.location⟩ x.2 x.1) fun l hl => by
      obtain ⟨x, -, hx⟩ := List.mem_map.1 hl
      exact (origin_of_readLine_eq_line hx).1
  rw [BalancedReadings, filterMap_relevant?_readLine, List.map_map,
    ← readContents_eq_ofReadings] at hreadings
  have hevents : (f.report marker rank).events.Perm (f.events marker rank) := by
    rw [events_report]
    exact inTimeOrder_perm _
  rw [LogFile.events, LogFile.lines, ← events_ofLines_readContents] at hevents
  refine (hreadings.of_counts ?_ fun reason => ?_).perm hevents.symm (.refl _)
  · rfl
  · cases reason <;> rfl

/-- Reading lines counts neither events nor their order. -/
theorem Contents.tally_ofReadings (readings : List Reading) :
    (ofReadings readings).tally.events = 0 ∧ (ofReadings readings).tally.outOfOrder = 0 := by
  induction readings with
  | nil => exact ⟨rfl, rfl⟩
  | cons r rs ih =>
    have hr : r.tally.events = 0 ∧ r.tally.outOfOrder = 0 := by
      cases r with
      | irrelevant isText => exact ⟨rfl, rfl⟩
      | line l => exact ⟨rfl, rfl⟩
      | fault e => cases e <;> exact ⟨rfl, rfl⟩
    rw [ofReadings_cons]
    exact ⟨Nat.add_eq_zero_iff.2 ⟨hr.1, ih.1⟩, Nat.add_eq_zero_iff.2 ⟨hr.2, ih.2⟩⟩

/-- Normalizing lines counts the events, but not their order. -/
theorem Normalized.tally_ofLines (lines : List LogLine) :
    (ofLines lines).tally.events = (ofLines lines).events.length ∧
      (ofLines lines).tally.outOfOrder = 0 := by
  induction lines with
  | nil => exact ⟨rfl, rfl⟩
  | cons l ls ih =>
    cases hevent : Event.ofLine l with
    | ok e =>
      rw [ofLines_cons_of_ok ls hevent, List.length_cons, ← ih.1, Nat.add_comm]
      exact ⟨rfl, Nat.add_eq_zero_iff.2 ⟨rfl, ih.2⟩⟩
    | error e =>
      have hskip : (Tally.skip e.reason).events = 0 ∧ (Tally.skip e.reason).outOfOrder = 0 := by
        cases e.reason <;> exact ⟨rfl, rfl⟩
      rw [ofLines_cons_of_error ls hevent, ← ih.1]
      exact ⟨(congrArg (· + _) hskip.1).trans (Nat.zero_add _),
        Nat.add_eq_zero_iff.2 ⟨hskip.2, ih.2⟩⟩

/-- The events of a file are counted. -/
theorem LogFile.events_tally_report (marker : String) (rank : ℕ) (f : LogFile) :
    (f.report marker rank).tally.events = (f.report marker rank).events.length := by
  have hcontents : (readContents marker ⟨rank, f.location⟩ f.data).tally.events = 0 :=
    (Contents.tally_ofReadings _).1
  have hnormalized := (Normalized.tally_ofLines
    (readContents marker ⟨rank, f.location⟩ f.data).lines).1
  rw [events_report, (inTimeOrder_perm _).length_eq, LogFile.events, LogFile.lines,
    ← events_ofLines_readContents]
  change (readContents marker ⟨rank, f.location⟩ f.data).tally.events +
    (Normalized.ofLines (readContents marker ⟨rank, f.location⟩ f.data).lines).tally.events + 0 = _
  rw [hcontents, hnormalized, Nat.zero_add, Nat.add_zero]

/-- The descents of a file are counted before its events are put into the order of time. -/
theorem LogFile.outOfOrder_tally_report (marker : String) (rank : ℕ) (f : LogFile) :
    (f.report marker rank).tally.outOfOrder = descents (f.events marker rank) := by
  have hcontents : (readContents marker ⟨rank, f.location⟩ f.data).tally.outOfOrder = 0 :=
    (Contents.tally_ofReadings _).2
  have hnormalized := (Normalized.tally_ofLines
    (readContents marker ⟨rank, f.location⟩ f.data).lines).2
  rw [LogFile.events, LogFile.lines, ← events_ofLines_readContents]
  change (readContents marker ⟨rank, f.location⟩ f.data).tally.outOfOrder +
    (Normalized.ofLines (readContents marker ⟨rank, f.location⟩ f.data).lines).tally.outOfOrder +
      (restoreOrder _).2 = descents _
  rw [hcontents, hnormalized, Nat.zero_add, restoreOrder_eq]

/-! ### The ledger -/

section

variable {ps ps' : List Place} {l : Ledger} {es : List Event}

/-- Taking up a report that balances keeps the balance. -/
theorem Ledger.balanced_absorb {r : SourceReport} (h : Balanced ps l.tally es l.skipped)
    (hr : Balanced ps' r.tally r.events r.skipped) :
    Balanced (ps ++ ps') (l.absorb r).tally (es ++ r.events) (l.absorb r).skipped :=
  h.append hr

/-- Leaving out an event keeps the balance. -/
theorem Ledger.balanced_skipUnknown {e : Event} (h : Balanced ps l.tally (e :: es) l.skipped) :
    Balanced ps (l.skipUnknown e).tally es (l.skipUnknown e).skipped :=
  h.leave_event ⟨e.source.location, e.line, .unknownServer, _⟩ rfl

theorem balanced_foldl_absorb (marker : String) (files : List LogFile) :
    Balanced (files.flatMap (LogFile.relevant marker))
      ((reportsOf marker files).foldl Ledger.absorb {}).tally
      ((reportsOf marker files).flatMap SourceReport.events)
      ((reportsOf marker files).foldl Ledger.absorb {}).skipped := by
  induction files using List.reverseRecOn with
  | nil => exact .nil
  | append_singleton files f ih =>
    rw [reportsOf, List.mapIdx_concat, ← reportsOf, List.foldl_concat, List.flatMap_append,
      List.flatMap_append, List.flatMap_singleton, List.flatMap_singleton]
    exact Ledger.balanced_absorb ih (f.balanced_report marker files.length)

theorem balanced_foldl_skipUnknown (others : List Event)
    (h : Balanced ps l.tally (others ++ es) l.skipped) :
    Balanced ps (others.foldl Ledger.skipUnknown l).tally es
      (others.foldl Ledger.skipUnknown l).skipped := by
  induction others generalizing l with
  | nil => exact h
  | cons e others ih => exact ih (Ledger.balanced_skipUnknown h)

end

theorem Analysed.balanced {servers : List ServerId} {marker : String} {files : List LogFile}
    {a : Analysis} (h : Analysed servers (reportsOf marker files) a) :
    Balanced (files.flatMap (LogFile.relevant marker)) a.ledger.tally
      ((timeline marker files).filter a.registry.knows) a.ledger.skipped := by
  have hstream : ((reportsOf marker files).flatMap SourceReport.events).Perm
      (timeline marker files) := by
    rw [← streamOf_reportsOf, streamOf, merge_eq_mergeAll, List.flatMap_def]
    exact (mergeAll_perm _).symm
  have hsplit : (timeline marker files).Perm
      ((timeline marker files).filter (!a.registry.knows ·) ++
        (timeline marker files).filter a.registry.knows) :=
    (List.perm_append_comm.trans (List.filter_append_perm _ _)).symm
  rw [h.ledger, streamOf_reportsOf]
  exact balanced_foldl_skipUnknown _ ((balanced_foldl_absorb marker files).perm
    (hstream.trans hsplit) (.refl _))

end ReplicaTrace
