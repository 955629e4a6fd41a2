import ReplicaTrace.Proofs.Log.Contents

/-!
# Lines do not depend on each other

What is read from a line depends on its bytes and its number only.  A file of two parts is read as
the two parts, apart from the numbers in the second and from the number of lines, which is one less
for a file that holds a single line feed.  So a line that is changed changes only what is read from
itself, and lines without the marker only move the numbers of those after them.

* `readLine_renumber` : what is read from a line, for another number.
* `readWritten` : what is read from lines that were written.
* `Contents.unscanned`, `Contents.ofRelevant` : the contents without counts of all lines.
* `readWritten_unscanned` : the lines are read one by one.
* `readWritten_parts` : two parts, a changed line, and lines without the marker in between.
-/

namespace ReplicaTrace

open Text Calendar

/-! ### Other numbers -/

/-- The line with another number. -/
def LogLine.renumber (f : ℕ → ℕ) (l : LogLine) : LogLine :=
  { l with number := f l.number }

/-- The fault of a line with another number. -/
def LineError.renumber (f : ℕ → ℕ) : LineError → LineError
  | missing n part => missing (f n) part
  | badTimestamp n text cause => badTimestamp (f n) text cause
  | badField n field => badField (f n) field
  | notUtf8 n valid => notUtf8 (f n) valid

/-- What becomes of a line with another number. -/
def Reading.renumber (f : ℕ → ℕ) : Reading → Reading
  | irrelevant isText => irrelevant isText
  | line l => line (l.renumber f)
  | fault e => fault (e.renumber f)

/-- The contents with other numbers. -/
def Contents.renumber (f : ℕ → ℕ) (c : Contents) : Contents :=
  ⟨c.lines.map (·.renumber f), c.faults.map (·.renumber f), c.tally⟩

variable {marker : String} {source : Source} {bytes : Bytes} {f : ℕ → ℕ} {n : ℕ}

theorem LogLine.part_renumber (words : List (List Char)) (p : Part) :
    part words (f n) p = (part words n p).mapError (LineError.renumber f) := by
  unfold part
  cases words[p.position]? <;> rfl

/-- The number of a line is handed through and has no say in how it is read. -/
theorem LogLine.read_renumber (raw : List Char) :
    read source (f n) raw =
      ((read source n raw).mapError (LineError.renumber f)).map (LogLine.renumber f) := by
  simp only [read, part_renumber]
  rcases part (words raw) n .date with e | date
  · rfl
  rcases part (words raw) n .time with e | time
  · rfl
  rcases part (words raw) n .state with e | state
  · rfl
  -- all words are there
  simp only [Except.mapError, bind, Except.bind]
  rcases readTimestamp (date ++ ' ' :: time) with cause | millis
  · rfl
  rcases Fields.read state with field | fields
  · rfl
  · rfl

/-- What becomes of a line does not depend on its number, which it only names. -/
theorem readLine_renumber :
    readLine marker source (f n) bytes = (readLine marker source n bytes).renumber f := by
  unfold readLine
  cases Utf8.decode? bytes with
  | none =>
    dsimp only
    split <;> rfl
  | some text =>
    dsimp only
    split
    · rw [LogLine.read_renumber]
      cases LogLine.read source n text <;> rfl
    · rfl

theorem readAllLines_renumber {before before' : ℕ} {lines : List Bytes}
    (hf : ∀ i < lines.length, f (before + i + 1) = before' + i + 1) :
    readAllLines marker source before' lines =
      (readAllLines marker source before lines).map (·.renumber f) := by
  apply List.ext_getElem
  · simp [readAllLines]
  · intro i h₁ h₂
    have hi : i < lines.length := by simpa [readAllLines] using h₁
    simp only [readAllLines, List.getElem_mapIdx, List.getElem_map]
    rw [← hf i hi, readLine_renumber]

theorem Reading.tally_renumber (r : Reading) : (r.renumber f).tally = r.tally := by
  cases r with
  | irrelevant isText => rfl
  | line l => rfl
  | fault e => cases e <;> rfl

namespace Contents

theorem ofReadings_renumber (rs : List Reading) :
    ofReadings (rs.map (·.renumber f)) = (ofReadings rs).renumber f := by
  have hline : ∀ r : Reading, (r.renumber f).line? = r.line?.map (·.renumber f) := fun r => by
    cases r <;> rfl
  have hfault : ∀ r : Reading, (r.renumber f).fault? = r.fault?.map (·.renumber f) := fun r => by
    cases r <;> rfl
  simp only [ofReadings, renumber, List.filterMap_map, List.map_filterMap, List.map_map,
    Function.comp_def, hline, hfault, Reading.tally_renumber]

/-! ### Parts -/

/-- Two contents, one after the other. -/
protected def append (a b : Contents) : Contents :=
  ⟨a.lines ++ b.lines, a.faults ++ b.faults, a.tally + b.tally⟩

instance : Append Contents := ⟨Contents.append⟩

theorem ofReadings_append (rs rs' : List Reading) :
    ofReadings (rs ++ rs') = ofReadings rs ++ ofReadings rs' := by
  change _ = Contents.append _ _
  simp only [ofReadings, Contents.append, List.filterMap_append, List.map_append, Tally.sum_append]

/-- The contents without the number of lines. -/
def unscanned (c : Contents) : Contents :=
  { c with tally := { c.tally with scanned := 0 } }

/-- The contents without the two counts that concern all lines, relevant or not. -/
def ofRelevant (c : Contents) : Contents :=
  { c with tally := { c.tally with scanned := 0, notUtf8 := 0 } }

theorem unscanned_append (a b : Contents) : (a ++ b).unscanned = a.unscanned ++ b.unscanned := rfl

theorem unscanned_renumber (c : Contents) : (c.renumber f).unscanned = c.unscanned.renumber f := rfl

theorem ofRelevant_append (a b : Contents) : (a ++ b).ofRelevant = a.ofRelevant ++ b.ofRelevant :=
  rfl

theorem ofRelevant_renumber (c : Contents) :
    (c.renumber f).ofRelevant = c.ofRelevant.renumber f := rfl

theorem ofRelevant_unscanned (c : Contents) : c.unscanned.ofRelevant = c.ofRelevant := rfl

/-- Lines without the marker count as lines, and for the rest as nothing. -/
theorem ofRelevant_ofReadings_of_irrelevant {rs : List Reading}
    (h : ∀ r ∈ rs, ∃ isText, r = .irrelevant isText) :
    (ofReadings rs).ofRelevant = ⟨[], [], 0⟩ := by
  induction rs with
  | nil => rfl
  | cons r rs ih =>
    obtain ⟨isText, rfl⟩ := h r List.mem_cons_self
    rw [← List.singleton_append, ofReadings_append, ofRelevant_append,
      ih fun r hr => h r (List.mem_cons_of_mem _ hr)]
    rfl

theorem append_empty (c : Contents) : c ++ (⟨[], [], 0⟩ : Contents) = c := by
  change (⟨c.lines ++ [], c.faults ++ [], c.tally + 0⟩ : Contents) = c
  rw [List.append_nil, List.append_nil, Tally.add_zero]

end Contents

/-! ### Lines that were written -/

/-- What is read from the lines when each of them is written with a line feed after it. -/
def readWritten (marker : String) (source : Source) (lines : List Bytes) : Contents :=
  readContents marker source (lines.flatMap (· ++ [lineFeed]))

/-- What becomes of lines that come after `before` others, each without its carriage return. -/
def readEach (marker : String) (source : Source) (before : ℕ) (lines : List Bytes) : List Reading :=
  readAllLines marker source before (lines.map (dropFinal carriageReturn))

theorem readEach_append (before : ℕ) (xs ys : List Bytes) :
    readEach marker source before (xs ++ ys) =
      readEach marker source before xs ++ readEach marker source (before + xs.length) ys := by
  rw [readEach, List.map_append, readAllLines_append, List.length_map]
  rfl

theorem readEach_singleton (before : ℕ) (l : Bytes) :
    readEach marker source before [l] =
      [readLine marker source (before + 1) (dropFinal carriageReturn l)] := rfl

theorem readEach_renumber {before before' : ℕ} {lines : List Bytes}
    (hf : ∀ i < lines.length, f (before + i + 1) = before' + i + 1) :
    readEach marker source before' lines =
      (readEach marker source before lines).map (·.renumber f) :=
  readAllLines_renumber (by simpa using hf)

/-- An empty line is not relevant. -/
theorem readLine_nil (hmarker : marker ≠ "") (source : Source) (number : ℕ) :
    readLine marker source number [] = .irrelevant true := by
  have htext : Utf8.decode? [] = some [] := by simp [Utf8.decode?, Utf8.pieces_nil]
  have hocc : ¬ occursIn marker.toList [] = true := by simpa [occursIn] using hmarker
  rw [readLine, htext]
  exact if_neg hocc

/-- **Lines are read one by one.**  Only that a single empty line is not counted tells a file from
its lines. -/
theorem readWritten_unscanned (hmarker : marker ≠ "") (source : Source) {lines : List Bytes}
    (hfree : ∀ l ∈ lines, lineFeed ∉ l) :
    (readWritten marker source lines).unscanned =
      (Contents.ofReadings (readEach marker source 0 lines)).unscanned := by
  by_cases hempty : lines = [[]]
  · rw [hempty, readEach_singleton]
    change _ = (Contents.ofReadings [readLine marker source 1 []]).unscanned
    rw [readLine_nil hmarker]
    rfl
  · rw [readWritten, readContents, splitLines_flatMap hfree hempty]
    rfl

theorem readWritten_ofRelevant (hmarker : marker ≠ "") (source : Source) {lines : List Bytes}
    (hfree : ∀ l ∈ lines, lineFeed ∉ l) :
    (readWritten marker source lines).ofRelevant =
      (Contents.ofReadings (readEach marker source 0 lines)).ofRelevant := by
  rw [← Contents.ofRelevant_unscanned, readWritten_unscanned hmarker source hfree]
  rfl

/-- All lines count, except that a single empty line is not found. -/
theorem scanned_readWritten (marker : String) (source : Source) {lines : List Bytes}
    (hfree : ∀ l ∈ lines, lineFeed ∉ l) :
    (readWritten marker source lines).tally.scanned =
      if lines = [[]] then 0 else lines.length := by
  split
  · next hempty =>
    rw [hempty]
    rfl
  · next hempty =>
    rw [readWritten, readContents, scanned_ofReadings, splitLines_flatMap hfree hempty]
    simp [readAllLines]

/-- The number of a line after `count` more were put in behind the first `before` ones. -/
def afterInsertion (before count number : ℕ) : ℕ :=
  if number ≤ before then number else number + count

section

variable {xs ys zs : List Bytes}

/-- Two parts are read as they would be read alone, the second with higher numbers. -/
theorem readWritten_append (hmarker : marker ≠ "") (source : Source)
    (hxs : ∀ l ∈ xs, lineFeed ∉ l) (hys : ∀ l ∈ ys, lineFeed ∉ l) :
    (readWritten marker source (xs ++ ys)).unscanned =
      (readWritten marker source xs ++
        (readWritten marker source ys).renumber (· + xs.length)).unscanned := by
  have hall : ∀ l ∈ xs ++ ys, lineFeed ∉ l := List.forall_mem_append.2 ⟨hxs, hys⟩
  have hshift : readEach marker source (0 + xs.length) ys =
      (readEach marker source 0 ys).map (·.renumber (· + xs.length)) :=
    readEach_renumber fun i _ => by omega
  calc (readWritten marker source (xs ++ ys)).unscanned
      = (Contents.ofReadings (readEach marker source 0 (xs ++ ys))).unscanned :=
        readWritten_unscanned hmarker source hall
    _ = (Contents.ofReadings (readEach marker source 0 xs)).unscanned ++
          ((Contents.ofReadings (readEach marker source 0 ys)).unscanned).renumber
            (· + xs.length) := by
        rw [readEach_append, hshift, Contents.ofReadings_append, Contents.ofReadings_renumber,
          Contents.unscanned_append, Contents.unscanned_renumber]
    _ = _ := by
        rw [← readWritten_unscanned hmarker source hxs, ← readWritten_unscanned hmarker source hys,
          Contents.unscanned_append, Contents.unscanned_renumber]

/-- One line between two parts is read for itself. -/
theorem readWritten_append_cons (hmarker : marker ≠ "") (source : Source)
    (hxs : ∀ l ∈ xs, lineFeed ∉ l) (hys : ∀ l ∈ ys, lineFeed ∉ l) {l : Bytes}
    (hl : lineFeed ∉ l) :
    (readWritten marker source (xs ++ l :: ys)).unscanned =
      (readWritten marker source xs ++
        .ofReadings [readLine marker source (xs.length + 1) (dropFinal carriageReturn l)] ++
        (readWritten marker source ys).renumber (· + (xs.length + 1))).unscanned := by
  have hxl : ∀ l' ∈ xs ++ [l], lineFeed ∉ l' :=
    List.forall_mem_append.2 ⟨hxs, List.forall_mem_singleton.2 hl⟩
  let own := Contents.ofReadings
    [readLine marker source (xs.length + 1) (dropFinal carriageReturn l)]
  have hfirst : (readWritten marker source (xs ++ [l])).unscanned =
      (readWritten marker source xs ++ own).unscanned := by
    rw [readWritten_unscanned hmarker source hxl, readEach_append, readEach_singleton,
      Contents.ofReadings_append, Contents.unscanned_append, Contents.unscanned_append,
      readWritten_unscanned hmarker source hxs, Nat.zero_add]
  have hparts := readWritten_append hmarker source hxl hys
  rw [List.append_assoc, List.singleton_append, List.length_append, List.length_singleton] at hparts
  rw [hparts, Contents.unscanned_append, hfirst, ← Contents.unscanned_append]

/-- Lines without the marker give nothing. -/
theorem ofRelevant_readEach (source : Source) (before : ℕ)
    (h : ∀ l ∈ zs, ¬ IsRelevant marker l) :
    (Contents.ofReadings (readEach marker source before zs)).ofRelevant = ⟨[], [], 0⟩ := by
  refine Contents.ofRelevant_ofReadings_of_irrelevant fun r hr => ?_
  obtain ⟨i, hi, rfl⟩ := List.mem_mapIdx.1 hr
  obtain ⟨l, hl, heq⟩ := List.mem_map.1 (List.getElem_mem hi)
  rw [← heq]
  exact readLine_of_not_isRelevant source _ (not_isRelevant_dropFinal (h l hl))

/-- The lines before an insertion keep their numbers, those after it are moved. -/
theorem readEach_insert (xs ys zs : List Bytes) :
    readEach marker source 0 xs ++ readEach marker source (0 + (xs ++ zs).length) ys =
      (readEach marker source 0 (xs ++ ys)).map
        (·.renumber (afterInsertion xs.length zs.length)) := by
  have hbefore : readEach marker source 0 xs =
      (readEach marker source 0 xs).map (·.renumber (afterInsertion xs.length zs.length)) :=
    readEach_renumber fun i hi => if_pos (by omega)
  have hafter : readEach marker source (0 + (xs ++ zs).length) ys =
      (readEach marker source (0 + xs.length) ys).map
        (·.renumber (afterInsertion xs.length zs.length)) := by
    rw [List.length_append]
    refine readEach_renumber fun i _ => ?_
    rw [afterInsertion, if_neg (by omega)]
    omega
  rw [readEach_append, List.map_append, ← hbefore, ← hafter]

/-- Lines without the marker only move the numbers of those after them. -/
theorem readWritten_insert (hmarker : marker ≠ "") (source : Source)
    (hxs : ∀ l ∈ xs, lineFeed ∉ l) (hys : ∀ l ∈ ys, lineFeed ∉ l)
    (hzs : ∀ l ∈ zs, lineFeed ∉ l ∧ ¬ IsRelevant marker l) :
    (readWritten marker source (xs ++ zs ++ ys)).ofRelevant =
      ((readWritten marker source (xs ++ ys)).renumber
        (afterInsertion xs.length zs.length)).ofRelevant := by
  have hxy : ∀ l ∈ xs ++ ys, lineFeed ∉ l := List.forall_mem_append.2 ⟨hxs, hys⟩
  have hxzy : ∀ l ∈ xs ++ zs ++ ys, lineFeed ∉ l :=
    List.forall_mem_append.2 ⟨List.forall_mem_append.2 ⟨hxs, fun l hl => (hzs l hl).1⟩, hys⟩
  have hnothing := ofRelevant_readEach source (0 + xs.length) fun l hl => (hzs l hl).2
  calc (readWritten marker source (xs ++ zs ++ ys)).ofRelevant
      = (Contents.ofReadings (readEach marker source 0 (xs ++ zs ++ ys))).ofRelevant :=
        readWritten_ofRelevant hmarker source hxzy
    _ = (Contents.ofReadings (readEach marker source 0 xs ++
          readEach marker source (0 + (xs ++ zs).length) ys)).ofRelevant := by
        rw [readEach_append, readEach_append]
        simp only [Contents.ofReadings_append, Contents.ofRelevant_append]
        rw [hnothing, Contents.append_empty]
    _ = ((Contents.ofReadings (readEach marker source 0 (xs ++ ys))).renumber
          (afterInsertion xs.length zs.length)).ofRelevant := by
        rw [readEach_insert, Contents.ofReadings_renumber]
    _ = ((readWritten marker source (xs ++ ys)).renumber
          (afterInsertion xs.length zs.length)).ofRelevant := by
        rw [Contents.ofRelevant_renumber, Contents.ofRelevant_renumber,
          readWritten_ofRelevant hmarker source hxy]

/-- **Lines do not depend on each other.**  Of two parts, each line is read as it would be in its
part alone, those of the second with higher numbers, and the counts are added.  Of a file with a
line `l` in it, only what becomes of this line depends on `l`, and what stands before and after it
is read the same.  Lines without the marker that are put in change the numbers of the lines after
them and the counts of all lines and of those that are no text, and nothing else.  The count of all
lines is their number, but for a single empty line. -/
theorem readWritten_parts {marker : String} (hmarker : ∃ c ∈ marker.toList, isBlank c = false)
    (source : Source) {xs ys : List Bytes} (hxs : ∀ l ∈ xs, lineFeed ∉ l)
    (hys : ∀ l ∈ ys, lineFeed ∉ l) :
    (readWritten marker source (xs ++ ys)).unscanned =
        (readWritten marker source xs ++
          (readWritten marker source ys).renumber (· + xs.length)).unscanned ∧
      (∀ l, lineFeed ∉ l → (readWritten marker source (xs ++ l :: ys)).unscanned =
        (readWritten marker source xs ++
          .ofReadings [readLine marker source (xs.length + 1) (dropFinal carriageReturn l)] ++
          (readWritten marker source ys).renumber (· + (xs.length + 1))).unscanned) ∧
      (∀ zs, (∀ l ∈ zs, lineFeed ∉ l ∧ ¬ IsRelevant marker l) →
        (readWritten marker source (xs ++ zs ++ ys)).ofRelevant =
          ((readWritten marker source (xs ++ ys)).renumber
            (afterInsertion xs.length zs.length)).ofRelevant) ∧
      ∀ lines : List Bytes, (∀ l ∈ lines, lineFeed ∉ l) →
        (readWritten marker source lines).tally.scanned =
          if lines = [[]] then 0 else lines.length := by
  have hne : marker ≠ "" := by
    rintro rfl
    simp at hmarker
  refine ⟨readWritten_append hne source hxs hys, fun l hl => ?_, fun zs hzs => ?_,
    fun lines hfree => scanned_readWritten marker source hfree⟩
  · exact readWritten_append_cons hne source hxs hys hl
  · exact readWritten_insert hne source hxs hys hzs

end

/-- A relevant line that is malformed, the first two bytes of a character, and an empty line. -/
def cutLines : List Bytes :=
  [Utf8.encode "[T] lost".toList, [0xE2, 0x82], []]

/-- The last byte of the character, with a carriage return after it, and a line that can be read. -/
def restLines : List Bytes :=
  [[0xAC, carriageReturn], Utf8.encode "[T] 2024/01/02 15:04:05 p.go:1: ID:1".toList]

theorem readWritten_parts_cutLines :
    (∃ c ∈ "[T]".toList, isBlank c = false) ∧ (∀ l ∈ cutLines, lineFeed ∉ l) ∧
      (∀ l ∈ restLines, lineFeed ∉ l) ∧ (∀ l ∈ [[0xFF]], lineFeed ∉ l ∧ ¬ IsRelevant "[T]" l) ∧
      (readWritten "[T]" ⟨0, "a.log"⟩ (cutLines ++ restLines)).unscanned =
        (readWritten "[T]" ⟨0, "a.log"⟩ cutLines ++
          (readWritten "[T]" ⟨0, "a.log"⟩ restLines).renumber (· + 3)).unscanned ∧
      (readWritten "[T]" ⟨0, "a.log"⟩ (cutLines ++ [[0xFF]] ++ restLines)).ofRelevant =
        ((readWritten "[T]" ⟨0, "a.log"⟩ (cutLines ++ restLines)).renumber
          (afterInsertion 3 1)).ofRelevant ∧
      (readWritten "[T]" ⟨0, "a.log"⟩ (cutLines ++ restLines)).tally.scanned = 5 := by
  have hmarker : ∃ c ∈ "[T]".toList, isBlank c = false := ⟨'T', by decide, by decide⟩
  have hcut : ∀ l ∈ cutLines, lineFeed ∉ l := by decide +kernel
  have hrest : ∀ l ∈ restLines, lineFeed ∉ l := by decide +kernel
  have hirrelevant : ∀ l ∈ [[0xFF]], lineFeed ∉ l ∧ ¬ IsRelevant "[T]" l := by decide +kernel
  obtain ⟨happend, -, hinsert, hscanned⟩ :=
    readWritten_parts hmarker ⟨0, "a.log"⟩ hcut hrest
  refine ⟨hmarker, hcut, hrest, hirrelevant, happend, hinsert [[0xFF]] hirrelevant, ?_⟩
  exact hscanned (cutLines ++ restLines) (List.forall_mem_append.2 ⟨hcut, hrest⟩)

end ReplicaTrace
