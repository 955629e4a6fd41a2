import ReplicaTrace.Proofs.Calendar.Signs
import ReplicaTrace.Proofs.Log.Marked
import ReplicaTrace.Proofs.Log.RoundTrip
import ReplicaTrace.Settings.Basic

/-!
# The words of the marker

Settings without a fault have a marker that is not blank, and that is all that the rules ask of it.
Date, time and fields of a line are told by the count of words before them, and the marker is meant
to be the first of these.  Blanks at its ends do no harm; a marker that has blanks between its words
shifts everything that comes after it, so that date and time are taken from the wrong words.

* `Printed` : what a replica prints after the marker.
* `Printed.isRead_of_words` : behind a marker of one word it is read.
* `Printed.time_eq_of_isRead` : behind any other marker there is at most one moment that is read.
* `Settings.usable_iff` : all of this for settings without a fault.
-/

namespace ReplicaTrace

open Text Calendar

/-- What a replica prints after the marker: a moment, a place in the code, and fields.  A key may
occur twice. -/
structure Printed where
  /-- The moment. -/
  time : ℤ
  /-- The place in the code. -/
  code : List Char
  /-- The fields. -/
  pairs : List (String × String)
  hasFourDigitYear : HasFourDigitYear time
  isWord_code : IsWord code
  pairs_ne : pairs ≠ []
  readable : ∀ p ∈ pairs, Fields.Readable p
  blankFree : ∀ p ∈ pairs, ∀ c ∈ Fields.fieldText p, isBlank c = false

namespace Printed

variable (p : Printed)

/-- The fields with commas between them. -/
def state : List Char :=
  [','].intercalate (p.pairs.map Fields.fieldText)

/-- The line behind a marker, with single spaces. -/
def text (marker : String) : List Char :=
  marker.toList ++ ' ' :: (dateText p.time ++ ' ' :: (timeText p.time ++ ' ' ::
    (p.code ++ ' ' :: p.state)))

/-- The line has the marker and is read as what was printed. -/
def IsRead (marker : String) (source : Source) (number : ℕ) : Prop :=
  readLine marker source number (Utf8.encode (p.text marker)) =
    .line ⟨p.time, source, number, String.ofList (p.text marker), .ofList p.pairs⟩

theorem isWord_state : IsWord p.state :=
  Fields.isWord_intercalate p.pairs_ne p.blankFree

theorem words_text (marker : String) : words (p.text marker) =
    words marker.toList ++ [dateText p.time, timeText p.time, p.code, p.state] := by
  have hblank : isBlank ' ' = true := by decide
  rw [text, words_append_blank hblank, words_append_blank hblank, words_append_blank hblank,
    words_append_blank hblank, (isWord_dateText p.time).words_eq,
    (isWord_timeText p.time).words_eq, p.isWord_code.words_eq, p.isWord_state.words_eq]
  rfl

theorem trimEnd_text (marker : String) : trimEnd (p.text marker) = p.text marker := by
  have hwords : p.text marker = fiveWords marker.toList p.code p.state p.time := by
    simp [text, fiveWords, writeTimestamp]
  rw [hwords, trimEnd_fiveWords p.isWord_state]

theorem read_state : Fields.read p.state = .ok (.ofList p.pairs) :=
  Fields.read_intercalate p.pairs_ne p.readable

variable {p} {q : Printed} {marker : String} {source source' : Source} {number number' : ℕ}

/-- The marker stands in the line, so that the line is read or is a fault. -/
theorem isRead_iff_read : p.IsRead marker source number ↔
    LogLine.read source number (p.text marker) =
      .ok ⟨p.time, source, number, String.ofList (p.text marker), .ofList p.pairs⟩ := by
  have hmarker : marker.toList <:+: p.text marker := (List.prefix_append _ _).isInfix
  unfold IsRead readLine
  rw [Utf8.decode?_encode]
  dsimp only
  rw [if_pos (occursIn_iff.2 hmarker)]
  cases LogLine.read source number (p.text marker) <;> simp

/-- **What is read from the line** is told by the words at the places of the date, the time and the
fields. -/
theorem isRead_iff {all : List (List Char)} (hall : words (p.text marker) = all) :
    p.IsRead marker source number ↔ ∃ date time state, all[1]? = some date ∧
      all[2]? = some time ∧ all[4]? = some state ∧
        readTimestamp (date ++ ' ' :: time) = .ok p.time ∧
          Fields.read state = .ok (.ofList p.pairs) := by
  rw [isRead_iff_read, LogLine.read_eq_ok_iff, hall, trimEnd_text]
  constructor
  · rintro ⟨date, time, state, millis, fields, hdate, htime, hstate, hmillis, hfields, hline⟩
    obtain ⟨rfl, -, -, -, rfl⟩ := LogLine.mk.inj hline
    exact ⟨date, time, state, hdate, htime, hstate, hmillis, hfields⟩
  · rintro ⟨date, time, state, hdate, htime, hstate, hmillis, hfields⟩
    exact ⟨date, time, state, _, _, hdate, htime, hstate, hmillis, hfields, rfl⟩

/-- **Behind a marker of one word** the line is read. -/
theorem isRead_of_words {word : List Char} (h : words marker.toList = [word]) (source : Source)
    (number : ℕ) : p.IsRead marker source number := by
  refine (isRead_iff (by rw [words_text, h])).2 ⟨dateText p.time, timeText p.time, p.state, rfl,
    rfl, rfl, ?_, p.read_state⟩
  exact readTimestamp_writeTimestamp p.hasFourDigitYear

/-- **Behind a marker of more words** there is at most one moment that is read: the one that the
marker itself says, if any. -/
theorem time_eq_of_isRead {first second : List Char} {rest : List (List Char)}
    (h : words marker.toList = first :: second :: rest) (hp : p.IsRead marker source number)
    (hq : q.IsRead marker source' number') : p.time = q.time := by
  have hwords : ∀ p : Printed, words (p.text marker) =
      first :: second :: (rest ++ [dateText p.time, timeText p.time, p.code, p.state]) :=
    fun p => by rw [words_text, h, List.cons_append, List.cons_append]
  obtain ⟨date, time, state, hdate, htime, -, hread, -⟩ := (isRead_iff (hwords p)).1 hp
  obtain ⟨date', time', state', hdate', htime', -, hread', -⟩ := (isRead_iff (hwords q)).1 hq
  obtain rfl : second = date := Option.some.inj hdate
  obtain rfl : second = date' := Option.some.inj hdate'
  cases rest with
  | nil =>
    -- the date stands where the time should, and is none
    obtain rfl : dateText p.time = time := Option.some.inj htime
    exact (readTimestamp_append_dateText _ _ _ hread).elim
  | cons third rest =>
    obtain rfl : third = time := Option.some.inj htime
    obtain rfl : third = time' := Option.some.inj htime'
    exact Except.ok.inj (hread.symm.trans hread')

/-- A moment with the usual place and one field. -/
def sample (time : ℤ) (h : HasFourDigitYear time) : Printed where
  time
  code := "p.go:1:".toList
  pairs := [("ID", "1")]
  hasFourDigitYear := h
  isWord_code := by decide
  pairs_ne := by decide
  readable := by decide
  blankFree pair hpair := by
    have hword : IsWord (Fields.fieldText ("ID", "1")) := by decide
    rw [List.mem_singleton.1 hpair]
    exact hword.blankFree

end Printed

/-! ### Markers -/

theorem words_ne_nil {cs : List Char} {c : Char} (hmem : c ∈ cs) (hc : isBlank c = false) :
    words cs ≠ [] := by
  induction cs with
  | nil => cases hmem
  | cons d ds ih =>
    cases hd : isBlank d with
    | true =>
      rw [words_cons_blank hd]
      refine ih ((List.mem_cons.1 hmem).resolve_left ?_)
      rintro rfl
      rw [hc] at hd
      cases hd
    | false =>
      obtain ⟨piece, pieces, hpieces⟩ :=
        List.exists_cons_of_ne_nil (List.splitOnP_ne_nil isBlank ds)
      simp [words, List.splitOnP_cons_eq_if_modifyHead, hd, hpieces]

theorem lineFeed_notMem_of_mem_splitLines {data l : Bytes} (h : l ∈ splitLines data) :
    lineFeed ∉ l := by
  unfold splitLines at h
  split at h
  · cases h
  · obtain ⟨piece, hpiece, rfl⟩ := List.mem_map.1 h
    intro hmem
    have hfeed : lineFeed ∈ piece := by
      unfold dropFinal at hmem
      split at hmem
      · exact List.dropLast_subset _ hmem
      · exact hmem
    simpa using notMem_of_mem_splitOnP hpiece _ hfeed

/-- A marker with a line feed stands in no line of a file. -/
theorem not_isRelevant_of_mem_splitLines {marker : String} (hmarker : '\n' ∈ marker.toList)
    {data l : Bytes} (h : l ∈ splitLines data) : ¬ IsRelevant marker l := by
  intro hrel
  obtain ⟨before, after, hparts⟩ := List.append_of_mem (hrel.subset hmarker)
  have hfeed : ['\n'] <:+: Utf8.lossy l := ⟨before, after, by rw [hparts]; simp⟩
  have hbytes : Utf8.encode ['\n'] <:+: l := (Utf8.infix_lossy_iff (by decide)).1 hfeed
  exact lineFeed_notMem_of_mem_splitLines h (hbytes.subset (by decide))

/-- The marker of settings without a fault has a word. -/
theorem Settings.words_marker_ne_nil {s : Settings} (h : s.fault? = none) :
    words s.marker.toList ≠ [] := by
  have hblank : ¬ isBlankText s.marker = true := by
    intro hblank
    rw [fault?, if_pos hblank] at h
    cases h
  obtain ⟨c, hc, hnot⟩ : ∃ c ∈ s.marker.toList, isBlank c = false := by
    simpa [isBlankText] using hblank
  exact words_ne_nil hc hnot

/-- **Which markers can be used.**  Of the markers that break no rule, exactly those of one word let
every line be read that a replica prints behind them.  Behind any other marker lines of two
different moments are never both read, and a marker with a line feed, even at one of its ends, marks
no line of any file. -/
theorem Settings.usable_iff {s : Settings} (h : s.fault? = none) :
    ((∀ (p : Printed) (source : Source) (number : ℕ), p.IsRead s.marker source number) ↔
        (words s.marker.toList).length = 1) ∧
      ((words s.marker.toList).length ≠ 1 →
        ∀ (p q : Printed) (source source' : Source) (number number' : ℕ),
          p.IsRead s.marker source number → q.IsRead s.marker source' number' → p.time = q.time) ∧
      ('\n' ∈ s.marker.toList → ∀ (source : Source) (data : Bytes),
        ∀ reading ∈ readAllLines s.marker source 0 (splitLines data),
          ∃ isText, reading = .irrelevant isText) := by
  obtain ⟨word, more, hwords⟩ := List.exists_cons_of_ne_nil (words_marker_ne_nil h)
  have hsame : (words s.marker.toList).length ≠ 1 →
      ∀ (p q : Printed) (source source' : Source) (number number' : ℕ),
        p.IsRead s.marker source number → q.IsRead s.marker source' number' →
          p.time = q.time := by
    intro hlength p q source source' number number' hp hq
    cases more with
    | nil => exact absurd (congrArg List.length hwords) hlength
    | cons second rest => exact Printed.time_eq_of_isRead hwords hp hq
  refine ⟨⟨fun hall => ?_, fun hlength p source number => ?_⟩, hsame, ?_⟩
  · by_contra hlength
    have hzero : HasFourDigitYear 0 := by decide
    have hone : HasFourDigitYear 1 := by decide
    have htime := hsame hlength (.sample 0 hzero) (.sample 1 hone) ⟨0, ""⟩ ⟨0, ""⟩ 1 1
      (hall ..) (hall ..)
    cases htime
  · obtain rfl : more = [] := by
      rw [hwords, List.length_cons] at hlength
      exact List.length_eq_zero_iff.1 (by omega)
    exact Printed.isRead_of_words hwords source number
  · intro hfeed source data reading hreading
    obtain ⟨i, hi, rfl⟩ := List.mem_mapIdx.1 hreading
    exact readLine_of_not_isRelevant source _
      (not_isRelevant_of_mem_splitLines hfeed (List.getElem_mem hi))

/-- A word with blanks around it can be used. -/
theorem Settings.usable_iff_spaced :
    ({ marker := "\u3000[TEST] " } : Settings).fault? = none ∧
      ∀ (p : Printed) (source : Source) (number : ℕ), p.IsRead "\u3000[TEST] " source number := by
  have hfault : ({ marker := "\u3000[TEST] " } : Settings).fault? = none := by decide
  exact ⟨hfault, (usable_iff hfault).1.2 (by decide)⟩

/-- **A marker of two words breaks no rule and cannot be used.**  The second word is taken for the
date, and the date for the time. -/
theorem Settings.exists_unusable_marker :
    ({ marker := "my marker" } : Settings).fault? = none ∧
      ∃ p : Printed, p.text "my marker" =
          "my marker 2024/03/05 10:20:30.123000 p.go:1: ID:1".toList ∧
        readLine "my marker" ⟨0, "s.log"⟩ 1 (Utf8.encode (p.text "my marker")) =
          .fault (.badTimestamp 1 "marker 2024/03/05" .badCharacter) := by
  refine ⟨by decide, .sample 1709634030123 (by decide), by decide +kernel, by decide +kernel⟩

end ReplicaTrace
