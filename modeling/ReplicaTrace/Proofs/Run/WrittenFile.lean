import ReplicaTrace.Proofs.Log.Records
import ReplicaTrace.Proofs.Run.Balance

/-!
# Files of records

A file into which records were written, with any irrelevant lines between them, gives its records
back: their events in the order of time, each with the number of its line, and nothing is left out.

* `WrittenLine`, `WrittenLine.Fits` : the lines of such a file.
* `events_dataOf`, `length_relevant_dataOf` : the events and the relevant lines of the file.
* `ofData_dataOf` : the report of the file.
-/

namespace ReplicaTrace

/-- A line of a file. -/
inductive WrittenLine where
  /-- The line of a record. -/
  | record (r : Record)
  /-- Any other line. -/
  | other (bytes : Bytes)
deriving DecidableEq

namespace WrittenLine

/-- The line as it stands in the file, without its line feed. -/
def bytes : WrittenLine → Bytes
  | record r => Utf8.encode r.line
  | other bytes => bytes

/-- The record of the line. -/
def record? : WrittenLine → Option Record
  | record r => some r
  | other _ => none

/-- **The line can stand in the file**: a record that can be written has the marker in it, and any
other line is one line and not relevant. -/
def Fits (marker : String) : WrittenLine → Prop
  | record r => r.Writable ∧ marker.toList <:+: r.line
  | other bytes => lineFeed ∉ bytes ∧ ¬ IsRelevant marker bytes

instance (marker : String) : DecidablePred (Fits marker)
  | record r => inferInstanceAs (Decidable (r.Writable ∧ marker.toList <:+: r.line))
  | other bytes => inferInstanceAs (Decidable (lineFeed ∉ bytes ∧ ¬ IsRelevant marker bytes))

/-- The event of the line with the given number. -/
def event? (source : Source) (number : ℕ) (l : WrittenLine) : Option Event :=
  l.record?.map fun r => r.event source number

variable {marker : String} {l : WrittenLine}

/-- The line of a record is not empty. -/
theorem eq_other_of_bytes_eq_nil (h : l.bytes = []) : l = .other [] := by
  cases l with
  | record r => simp [bytes, Record.line, fiveWords, Utf8.encode] at h
  | other bytes => rw [← h, WrittenLine.bytes]

theorem Fits.lineFeed_notMem (h : l.Fits marker) : lineFeed ∉ l.bytes := by
  cases l with
  | record r => exact Record.lineFeed_notMem h.1
  | other bytes => exact h.1

theorem Fits.isRelevant_iff (h : l.Fits marker) :
    IsRelevant marker (dropFinal carriageReturn l.bytes) ↔ l.record?.isSome = true := by
  cases l with
  | record r =>
    change IsRelevant marker (dropFinal carriageReturn (Utf8.encode r.line)) ↔ _
    rw [Record.dropFinal_encode_line h.1, IsRelevant, Utf8.lossy_of_decode? (Utf8.decode?_encode _)]
    exact iff_of_true h.2 rfl
  | other bytes => exact iff_of_false (not_isRelevant_dropFinal h.2) Bool.false_ne_true

/-- The event that is read is the event of the record. -/
theorem Fits.lineEvent?_eq (h : l.Fits marker) (source : Source) (number : ℕ) :
    lineEvent? marker source number (dropFinal carriageReturn l.bytes) = l.event? source number := by
  cases l with
  | record r =>
    change lineEvent? marker source number (dropFinal carriageReturn (Utf8.encode r.line)) = _
    rw [Record.dropFinal_encode_line h.1]
    exact lineEvent?_eq_some_iff.2 ⟨r.line, r.logLine source number, Utf8.decode?_encode _, h.2,
      Record.read_line h.1 source number, Record.ofLine_logLine h.1 source number⟩
  | other bytes =>
    obtain ⟨isText, hread⟩ := readLine_of_not_isRelevant source number (not_isRelevant_dropFinal h.2)
    change lineEvent? marker source number (dropFinal carriageReturn bytes) = none
    rw [← line?_readLine_bind, hread]
    rfl

end WrittenLine

/-! ### Files -/

/-- The content of a file of lines that are ended by line feeds. -/
def dataOf (lines : List WrittenLine) : Bytes :=
  lines.flatMap fun l => l.bytes ++ [lineFeed]

/-- The events of the records, line by line. -/
def recordedEvents (source : Source) (lines : List WrittenLine) : List Event :=
  (lines.zipIdx 1).filterMap fun (l, number) => l.event? source number

/-- The records in their order. -/
def recordsOf (lines : List WrittenLine) : List Record :=
  lines.filterMap WrittenLine.record?

theorem map_time_recordedEvents (source : Source) (lines : List WrittenLine) :
    (recordedEvents source lines).map Event.time = (recordsOf lines).map Record.time := by
  have hevent : ∀ x : WrittenLine × ℕ,
      (x.1.event? source x.2).map Event.time = x.1.record?.map Record.time := fun x => by
    rw [WrittenLine.event?, Option.map_map]
    rfl
  rw [recordedEvents, recordsOf, List.map_filterMap, List.map_filterMap]
  simp only [hevent]
  change List.filterMap ((fun l : WrittenLine => l.record?.map Record.time) ∘ Prod.fst) _ = _
  rw [← List.filterMap_map, List.zipIdx_map_fst]

variable {marker location : String} {lines : List WrittenLine}

/-- The lines that are found are those that were written, except that a single empty line is not
found. -/
theorem lines_dataOf (location : String) (h : ∀ l ∈ lines, l.Fits marker) :
    lines = [.other []] ∧ (⟨location, dataOf lines⟩ : LogFile).lines = [] ∨
      (⟨location, dataOf lines⟩ : LogFile).lines =
        (lines.zipIdx 1).map fun x => (dropFinal carriageReturn x.1.bytes, x.2) := by
  have hdata : dataOf lines = (lines.map WrittenLine.bytes).flatMap (· ++ [lineFeed]) := by
    rw [dataOf, List.flatMap_map]
  have hfree : ∀ bs ∈ lines.map WrittenLine.bytes, lineFeed ∉ bs := by
    intro bs hbs
    obtain ⟨l, hl, rfl⟩ := List.mem_map.1 hbs
    exact (h l hl).lineFeed_notMem
  by_cases hempty : lines.map WrittenLine.bytes = [[]]
  · refine .inl ⟨?_, ?_⟩
    · obtain ⟨l, rfl, hl⟩ := List.map_eq_singleton_iff.1 hempty
      rw [WrittenLine.eq_other_of_bytes_eq_nil hl]
    · rw [LogFile.lines, hdata, hempty]
      rfl
  · refine .inr ?_
    rw [LogFile.lines, hdata, splitLines_flatMap hfree hempty, List.map_map, List.zipIdx_map]
    rfl

theorem events_dataOf (h : ∀ l ∈ lines, l.Fits marker) (rank : ℕ) :
    (⟨location, dataOf lines⟩ : LogFile).events marker rank =
      recordedEvents ⟨rank, location⟩ lines := by
  rcases lines_dataOf location h with ⟨rfl, hlines⟩ | hlines
  · rw [LogFile.events, hlines]
    rfl
  · rw [LogFile.events, hlines, List.filterMap_map, recordedEvents]
    refine List.filterMap_congr fun x hx => ?_
    exact (h x.1 (List.fst_mem_of_mem_zipIdx hx)).lineEvent?_eq ⟨rank, location⟩ x.2

/-- The relevant lines are those of the records. -/
theorem length_relevant_dataOf (h : ∀ l ∈ lines, l.Fits marker) :
    ((⟨location, dataOf lines⟩ : LogFile).relevant marker).length = (recordsOf lines).length := by
  rcases lines_dataOf location h with ⟨rfl, hlines⟩ | hlines
  · rw [LogFile.relevant, hlines]
    rfl
  · rw [LogFile.relevant, List.length_map, ← List.countP_eq_length_filter, hlines, List.countP_map,
      recordsOf, List.length_filterMap_eq_countP]
    calc (lines.zipIdx 1).countP _
        = (lines.zipIdx 1).countP ((fun l => l.record?.isSome) ∘ Prod.fst) :=
          List.countP_congr fun x hx => by
            rw [Function.comp_apply, decide_eq_true_eq]
            exact (h x.1 (List.fst_mem_of_mem_zipIdx hx)).isRelevant_iff
      _ = lines.countP fun l => l.record?.isSome := by
          rw [← List.countP_map, List.zipIdx_map_fst]

theorem length_recordedEvents (source : Source) (lines : List WrittenLine) :
    (recordedEvents source lines).length = (recordsOf lines).length := by
  rw [← List.length_map (f := Event.time), map_time_recordedEvents, List.length_map]

/-- **A file gives its records back.**  If records that can be written stand in a file, with any
irrelevant lines between them, the report of the file has their events in the order of time, those
of the same millisecond in the order of their lines, and nothing is left out; the records are
counted, and so are those that go back in time from the one before. -/
theorem ofData_dataOf (marker : String) (source : Source) (lines : List WrittenLine)
    (h : ∀ l ∈ lines, l.Fits marker) :
    (SourceReport.ofData marker source (dataOf lines)).events =
        (recordedEvents source lines).mergeSort (fun a b => decide (a.time ≤ b.time)) ∧
      (SourceReport.ofData marker source (dataOf lines)).skipped = [] ∧
      (SourceReport.ofData marker source (dataOf lines)).tally.matched = (recordsOf lines).length ∧
      (SourceReport.ofData marker source (dataOf lines)).tally.events = (recordsOf lines).length ∧
      (SourceReport.ofData marker source (dataOf lines)).tally.outOfOrder =
        (((recordsOf lines).map Record.time).zip ((recordsOf lines).map Record.time).tail).countP
          fun p => p.2 < p.1 := by
  obtain ⟨rank, location⟩ := source
  let file : LogFile := ⟨location, dataOf lines⟩
  have hevents : (file.report marker rank).events =
      inTimeOrder (recordedEvents ⟨rank, location⟩ lines) := by
    rw [events_report, events_dataOf h]
  have hlength : (file.report marker rank).events.length = (recordsOf lines).length := by
    rw [hevents, (inTimeOrder_perm _).length_eq, length_recordedEvents]
  -- every relevant line is an event, so that none is left for the skipped entries
  have hbalanced := file.balanced_report marker rank
  have hskipped : (file.report marker rank).skipped = [] := by
    have hplaces := hbalanced.places.length_eq
    rw [length_relevant_dataOf h, List.length_append, List.length_map, List.length_map,
      hlength] at hplaces
    exact List.length_eq_zero_iff.1 (by omega)
  refine ⟨hevents, hskipped, ?_, ?_, ?_⟩
  · exact hbalanced.matched.trans (length_relevant_dataOf h)
  · exact (file.events_tally_report marker rank).trans hlength
  · have hdescents := file.outOfOrder_tally_report marker rank
    rw [events_dataOf h, descents_eq_countP, map_time_recordedEvents] at hdescents
    exact hdescents

/-- Two records with the greatest slot, the least and the greatest round and times on both sides of
the start of 1970, the later one first, between lines that are not relevant: an empty one, one that
is no text, and one with a carriage return at its end. -/
def unorderedLines : List WrittenLine :=
  [.other [], .other [0xFF],
    .record ⟨"[T]", 253402300799999, "p.go:1:", "é", "P2a", 18446744073709551615, "1", "0",
      9223372036854775807⟩,
    .other (Utf8.encode "started".toList ++ [carriageReturn]),
    .record ⟨"[T]", -1, "p.go:2:", "1", "Chosen", 0, "", "7", -9223372036854775808⟩]

theorem fits_unorderedLines : ∀ l ∈ unorderedLines, l.Fits "[T]" := by
  decide +kernel

theorem ofData_dataOf_unorderedLines :
    (∀ l ∈ unorderedLines, l.Fits "[T]") ∧
      ((SourceReport.ofData "[T]" ⟨0, "a.log"⟩ (dataOf unorderedLines)).events.map fun e =>
          (e.time, e.line, e.action, e.server.text, e.slot, e.ballot)) =
        [(-1, 5, .other "Chosen", "1", 0, -9223372036854775808),
          (253402300799999, 3, .p2a, "é", 18446744073709551615, 9223372036854775807)] ∧
      (SourceReport.ofData "[T]" ⟨0, "a.log"⟩ (dataOf unorderedLines)).skipped = [] ∧
      (SourceReport.ofData "[T]" ⟨0, "a.log"⟩ (dataOf unorderedLines)).tally.matched = 2 ∧
      (SourceReport.ofData "[T]" ⟨0, "a.log"⟩ (dataOf unorderedLines)).tally.outOfOrder = 1 := by
  obtain ⟨hevents, hskipped, hmatched, -, hdescents⟩ :=
    ofData_dataOf "[T]" ⟨0, "a.log"⟩ unorderedLines fits_unorderedLines
  refine ⟨fits_unorderedLines, ?_, hskipped, hmatched, hdescents⟩
  rw [hevents]
  change (inTimeOrder _).map _ = _
  rw [inTimeOrder_eq_insertionSort]
  decide +kernel

end ReplicaTrace
