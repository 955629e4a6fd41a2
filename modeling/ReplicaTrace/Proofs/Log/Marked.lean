import ReplicaTrace.Proofs.Log.Independence
import ReplicaTrace.Proofs.Text.Occurrence

/-!
# Lines that carry the marker

Whether a line is relevant is looked up in its text, and where the bytes are no text in their
reading with replacement characters.  Both come to the same: a line is relevant exactly if the bytes
of the marker stand in it, provided that the marker has no replacement character in it.  A relevant
line that is no text is one fault and never a line that was read.

* `Carries` : the bytes of the marker stand in the line.
* `Contents.numbers` : which lines were found to be relevant.
* `matched_ofReadings` : as many lines are counted.
* `readContents_carries` : these are the lines that carry the marker.
-/

namespace ReplicaTrace

/-- The bytes of the marker stand in the line, one after the other. -/
def Carries (marker : String) (bytes : Bytes) : Prop :=
  Utf8.encode marker.toList <:+: bytes

instance (marker : String) (bytes : Bytes) : Decidable (Carries marker bytes) :=
  decidable_of_iff (occursIn (Utf8.encode marker.toList) bytes = true) occursIn_iff

/-- The numbers of the relevant lines. -/
def Contents.numbers (c : Contents) : List ℕ :=
  c.lines.map LogLine.number ++ c.faults.map LineError.line

variable {marker : String} {source : Source} {bytes : Bytes} {number : ℕ}

/-! ### One line -/

theorem isRelevant_iff_carries (hmarker : '\uFFFD' ∉ marker.toList) :
    IsRelevant marker bytes ↔ Carries marker bytes :=
  Utf8.infix_lossy_iff hmarker

/-- A relevant line that is no text says where it stops to be one. -/
theorem readLine_of_not_isText (source : Source) (number : ℕ) (h : IsRelevant marker bytes)
    (htext : ¬ Utf8.IsText bytes) :
    readLine marker source number bytes = .fault (.notUtf8 number (Utf8.validLength bytes)) := by
  have hnone : Utf8.decode? bytes = none := by
    refine Option.eq_none_iff_forall_ne_some.2 fun cs hcs => htext ?_
    exact Utf8.isText_iff.2 ⟨cs, hcs⟩
  rw [readLine, hnone]
  exact if_pos (occursIn_iff.2 h)

/-! ### Numbers and counts -/

theorem count_numbers_append (a b : Contents) (n : ℕ) :
    (a ++ b).numbers.count n = a.numbers.count n + b.numbers.count n := by
  change ((a.lines ++ b.lines).map LogLine.number ++
    (a.faults ++ b.faults).map LineError.line).count n = _
  simp only [Contents.numbers, List.map_append, List.count_append]
  omega

/-- The numbers are those of the readings. -/
theorem mem_numbers_ofReadings {rs : List Reading} {n : ℕ} :
    n ∈ (Contents.ofReadings rs).numbers ↔ ∃ r ∈ rs, r.relevant? = some n := by
  simp only [Contents.numbers, Contents.ofReadings, List.mem_append, List.mem_map,
    List.mem_filterMap, Reading.line?_eq_some_iff, Reading.fault?_eq_some_iff]
  constructor
  · rintro (⟨l, ⟨r, hr, rfl⟩, rfl⟩ | ⟨e, ⟨r, hr, rfl⟩, rfl⟩)
    · exact ⟨_, hr, rfl⟩
    · exact ⟨_, hr, rfl⟩
  · rintro ⟨r, hr, hn⟩
    cases r with
    | irrelevant isText => cases hn
    | line l => exact .inl ⟨l, ⟨_, hr, rfl⟩, Option.some.inj hn⟩
    | fault e => exact .inr ⟨e, ⟨_, hr, rfl⟩, Option.some.inj hn⟩

theorem numbers_ofReadings_singleton (r : Reading) :
    (Contents.ofReadings [r]).numbers = r.relevant?.toList := by
  cases r <;> rfl

theorem matched_tally (r : Reading) : r.tally.matched = r.relevant?.toList.length := by
  cases r with
  | irrelevant isText => rfl
  | line l => rfl
  | fault e => cases e <;> rfl

/-- As many lines are counted as were found to be relevant. -/
theorem matched_ofReadings (rs : List Reading) :
    (Contents.ofReadings rs).tally.matched = rs.countP fun r => r.relevant?.isSome := by
  induction rs with
  | nil => rfl
  | cons r rs ih =>
    have hsum : (Contents.ofReadings (r :: rs)).tally.matched =
        r.tally.matched + (Contents.ofReadings rs).tally.matched := by
      change (Tally.sum (r.tally :: rs.map Reading.tally)).matched = _
      rw [Tally.sum_cons]
      rfl
    rw [hsum, matched_tally, ih, List.countP_cons, Nat.add_comm]
    cases r.relevant? <;> rfl

theorem readAllLines_cons (before : ℕ) (l : Bytes) (ls : List Bytes) :
    readAllLines marker source before (l :: ls) =
      readLine marker source (before + 1) l :: readAllLines marker source (before + 1) ls :=
  readAllLines_append marker source before [l] ls

theorem countP_readAllLines (before : ℕ) (ls : List Bytes) :
    (readAllLines marker source before ls).countP (fun r => r.relevant?.isSome) =
      ls.countP fun l => IsRelevant marker l := by
  induction ls generalizing before with
  | nil => rfl
  | cons l ls ih =>
    rw [readAllLines_cons, List.countP_cons, List.countP_cons, ih, relevant?_readLine]
    by_cases h : IsRelevant marker l <;> simp [h]

/-! ### A line among the others -/

/-- Lines that come after `before` others are numbered from there on. -/
theorem number_bounds_of_mem_readAllLines {before n : ℕ} {ls : List Bytes} {r : Reading}
    (hr : r ∈ readAllLines marker source before ls) (hn : r.relevant? = some n) :
    before < n ∧ n ≤ before + ls.length := by
  obtain ⟨k, hk, rfl⟩ := List.mem_mapIdx.1 hr
  rw [relevant?_readLine] at hn
  split at hn
  · obtain rfl := Option.some.inj hn
    omega
  · cases hn

/-- What is read from a file is what is read from one of its lines and from the others, which have
other numbers. -/
theorem exists_others (marker : String) (source : Source) {data : Bytes} {i : ℕ}
    (h : (splitLines data)[i]? = some bytes) :
    ∃ before after : Contents, readContents marker source data =
        before ++ .ofReadings [readLine marker source (i + 1) bytes] ++ after ∧
      i + 1 ∉ before.numbers ∧ i + 1 ∉ after.numbers := by
  obtain ⟨hi, hbytes⟩ := List.getElem?_eq_some_iff.1 h
  have hlength : ((splitLines data).take i).length = i := by
    rw [List.length_take]
    omega
  have hlines : splitLines data =
      (splitLines data).take i ++ bytes :: (splitLines data).drop (i + 1) := by
    rw [← hbytes, List.getElem_cons_drop, List.take_append_drop]
  refine ⟨.ofReadings (readAllLines marker source 0 ((splitLines data).take i)),
    .ofReadings (readAllLines marker source (i + 1) ((splitLines data).drop (i + 1))), ?_, ?_, ?_⟩
  · rw [readContents, hlines, readAllLines_append, readAllLines_cons, ← List.singleton_append,
      ← List.append_assoc, Contents.ofReadings_append, Contents.ofReadings_append, ← hlines,
      hlength, Nat.zero_add]
  · intro hmem
    obtain ⟨r, hr, hn⟩ := mem_numbers_ofReadings.1 hmem
    have := number_bounds_of_mem_readAllLines hr hn
    omega
  · intro hmem
    obtain ⟨r, hr, hn⟩ := mem_numbers_ofReadings.1 hmem
    have := number_bounds_of_mem_readAllLines hr hn
    omega

theorem filter_faults_of_notMem {c : Contents} (h : number ∉ c.numbers) :
    c.faults.filter (fun e => e.line = number) = [] := by
  refine List.filter_eq_nil_iff.2 fun e he hline => h ?_
  rw [← of_decide_eq_true hline]
  exact List.mem_append_right _ (List.mem_map_of_mem he)

theorem ne_of_notMem_numbers {c : Contents} (h : number ∉ c.numbers) :
    ∀ l ∈ c.lines, l.number ≠ number := by
  rintro l hl rfl
  exact h (List.mem_append_left _ (List.mem_map_of_mem hl))

/-- **The relevant lines are those that carry the marker**, whether they are texts or not, if the
replacement character is not in the marker: so many are counted, and each of them is reported once
under its number.  One that is no text is reported as a fault, which tells how long the longest
beginning is that is a text, and is not among the lines that were read. -/
theorem readContents_carries {marker : String} (hmarker : '\uFFFD' ∉ marker.toList)
    (source : Source) (data : Bytes) :
    (readContents marker source data).tally.matched =
        (splitLines data).countP (fun l => Carries marker l) ∧
      ∀ i l, (splitLines data)[i]? = some l →
        (readContents marker source data).numbers.count (i + 1) =
            (if Carries marker l then 1 else 0) ∧
        (Carries marker l → ¬ Utf8.IsText l → ∃ n,
          IsGreatest {n | n ≤ l.length ∧ Utf8.IsText (l.take n)} n ∧
          (readContents marker source data).faults.filter (fun e => e.line = i + 1) =
            [.notUtf8 (i + 1) n] ∧
          ∀ x ∈ (readContents marker source data).lines, x.number ≠ i + 1) := by
  simp only [← isRelevant_iff_carries hmarker]
  refine ⟨?_, fun i l hl => ?_⟩
  · rw [readContents, matched_ofReadings, countP_readAllLines]
  obtain ⟨before, after, hcontents, hbefore, hafter⟩ := exists_others marker source hl
  rw [hcontents]
  constructor
  · rw [count_numbers_append, count_numbers_append, List.count_eq_zero.2 hbefore,
      List.count_eq_zero.2 hafter, numbers_ofReadings_singleton, relevant?_readLine]
    split <;> simp
  · intro hrelevant htext
    refine ⟨_, Utf8.isGreatest_validLength l, ?_, ?_⟩
    · rw [readLine_of_not_isText source (i + 1) hrelevant htext]
      change (before.faults ++ [_] ++ after.faults).filter _ = _
      rw [List.filter_append, List.filter_append, filter_faults_of_notMem hbefore,
        filter_faults_of_notMem hafter]
      simp [LineError.line]
    · rw [readLine_of_not_isText source (i + 1) hrelevant htext]
      change ∀ x ∈ before.lines ++ [] ++ after.lines, _
      rw [List.append_nil]
      exact List.forall_mem_append.2 ⟨ne_of_notMem_numbers hbefore, ne_of_notMem_numbers hafter⟩

/-- A line with the marker between bytes that are no text, one with a byte in the marker that is no
text, and one that is a text. -/
def brokenLines : List Bytes :=
  [Utf8.encode "ab".toList ++ [0xE2, 0x82] ++ Utf8.encode "[T]é".toList ++ [0xFF],
    Utf8.encode "[T]".toList ++ [0xC3, 0xC3, 0xA9], Utf8.encode "x[T]é".toList]

theorem readContents_carries_brokenLines :
    '\uFFFD' ∉ "[T]é".toList ∧
      (splitLines (brokenLines.flatMap (· ++ [lineFeed])))[0]? = brokenLines[0]? ∧
      (readContents "[T]é" ⟨0, "a.log"⟩ (brokenLines.flatMap (· ++ [lineFeed]))).tally.matched = 2 ∧
      ∃ n, IsGreatest {n | n ≤ brokenLines[0].length ∧ Utf8.IsText (brokenLines[0].take n)} n ∧
        (readContents "[T]é" ⟨0, "a.log"⟩
          (brokenLines.flatMap (· ++ [lineFeed]))).faults.filter (fun e => e.line = 1) =
            [.notUtf8 1 n] := by
  have hmarker : '\uFFFD' ∉ "[T]é".toList := by decide
  have hlines : splitLines (brokenLines.flatMap (· ++ [lineFeed])) = brokenLines := by
    decide +kernel
  obtain ⟨hmatched, hline⟩ := readContents_carries hmarker ⟨0, "a.log"⟩
    (brokenLines.flatMap (· ++ [lineFeed]))
  rw [hlines] at hmatched hline ⊢
  obtain ⟨-, hbroken⟩ := hline 0 brokenLines[0] rfl
  obtain ⟨n, hn, hfaults, -⟩ := hbroken (by decide +kernel) (by decide +kernel)
  refine ⟨hmarker, rfl, ?_, n, hn, hfaults⟩
  rw [hmatched]
  decide +kernel

end ReplicaTrace
