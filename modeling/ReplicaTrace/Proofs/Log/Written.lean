import ReplicaTrace.Proofs.Calendar.Moments
import ReplicaTrace.Proofs.Log.Reading

/-!
# Lines of five words

A line that a replica writes has five words: any word, the date and the time of a moment, a place in
the code, and fields.  It is read as the moment and the fields.

* `IsWord` : a text without blanks that is not empty.
* `isWord_of_mem_words` : the words of a text.
* `words_fiveWords` : the words of the line.
* `LogLine.read_fiveWords` : the line is read, and more text after it makes no difference.
-/

namespace ReplicaTrace

open Text Calendar

/-- A text without blanks that is not empty. -/
structure IsWord (cs : List Char) : Prop where
  ne_nil : cs ≠ []
  blankFree : ∀ c ∈ cs, isBlank c = false

instance (cs : List Char) : Decidable (IsWord cs) :=
  decidable_of_iff (cs ≠ [] ∧ cs.all (fun c => !isBlank c) = true)
    ⟨fun ⟨h₁, h₂⟩ => ⟨h₁, by simpa using h₂⟩, fun ⟨h₁, h₂⟩ => ⟨h₁, by simpa using h₂⟩⟩

theorem IsWord.words_eq {cs : List Char} (h : IsWord cs) : words cs = [cs] :=
  words_of_blank_free h.ne_nil h.blankFree

theorem isWord_of_mem_words {cs word : List Char} (h : word ∈ words cs) : IsWord word := by
  obtain ⟨hpiece, hne⟩ := List.mem_filter.1 h
  exact ⟨by simpa using hne, notMem_of_mem_splitOnP hpiece⟩

/-- The text is empty or starts with a space, so that the words before it end there. -/
def Trailing (more : List Char) : Prop :=
  ∀ c ∈ more.head?, c = ' '

instance (more : List Char) : Decidable (Trailing more) :=
  Option.decidableForallMem _

theorem words_append_trailing {more : List Char} (h : Trailing more) (cs : List Char) :
    words (cs ++ more) = words cs ++ words more := by
  cases more with
  | nil => simp
  | cons c rest =>
    obtain rfl : c = ' ' := h c rfl
    have hblank : isBlank ' ' = true := by decide
    rw [words_append_blank hblank, words_cons_blank hblank]

theorem isWord_dateText (time : ℤ) : IsWord (dateText time) :=
  ⟨dateText_ne_nil time, fun _ => isBlank_of_mem_dateText⟩

theorem isWord_timeText (time : ℤ) : IsWord (timeText time) :=
  ⟨timeText_ne_nil time, fun _ => isBlank_of_mem_timeText⟩

/-- A line of five words, of which the second and the third are the moment. -/
def fiveWords (first code state : List Char) (time : ℤ) : List Char :=
  first ++ ' ' :: (writeTimestamp time ++ ' ' :: (code ++ ' ' :: state))

variable {first code state : List Char} {time : ℤ}

theorem words_fiveWords (hfirst : IsWord first) (hcode : IsWord code) (hstate : IsWord state) :
    words (fiveWords first code state time) = [first, dateText time, timeText time, code, state] := by
  have hblank : isBlank ' ' = true := by decide
  rw [fiveWords, writeTimestamp, List.append_assoc, List.cons_append, words_append_blank hblank,
    words_append_blank hblank, words_append_blank hblank, words_append_blank hblank,
    hfirst.words_eq, (isWord_dateText time).words_eq, (isWord_timeText time).words_eq,
    hcode.words_eq, hstate.words_eq]
  rfl

theorem trimEnd_fiveWords (hstate : IsWord state) :
    trimEnd (fiveWords first code state time) = fiveWords first code state time := by
  rw [trimEnd_eq_self_iff]
  intro c hc
  refine hstate.blankFree c (List.mem_of_getLast? ?_)
  obtain ⟨d, ds, hds⟩ := List.exists_cons_of_ne_nil hstate.ne_nil
  rw [← hc, fiveWords, hds]
  simp [List.getLast?_append, List.getLast?_cons]

/-- **A line with a moment and fields** is read as these, whatever comes after the fields. -/
theorem LogLine.read_fiveWords_append (source : Source) (number : ℕ) {fields : Fields}
    {more : List Char} (hfirst : IsWord first) (hcode : IsWord code) (hstate : IsWord state)
    (htime : HasFourDigitYear time) (hfields : Fields.read state = .ok fields)
    (hmore : Trailing more) :
    LogLine.read source number (fiveWords first code state time ++ more) =
      .ok ⟨time, source, number,
        String.ofList (trimEnd (fiveWords first code state time ++ more)), fields⟩ := by
  refine LogLine.read_eq_ok_iff.2 ⟨dateText time, timeText time, state, time, fields, ?_, ?_, ?_,
    readTimestamp_writeTimestamp htime, hfields, rfl⟩
  · rw [words_append_trailing hmore, words_fiveWords hfirst hcode hstate]
    rfl
  · rw [words_append_trailing hmore, words_fiveWords hfirst hcode hstate]
    rfl
  · rw [words_append_trailing hmore, words_fiveWords hfirst hcode hstate]
    rfl

theorem LogLine.read_fiveWords (source : Source) (number : ℕ) {fields : Fields}
    (hfirst : IsWord first) (hcode : IsWord code) (hstate : IsWord state)
    (htime : HasFourDigitYear time) (hfields : Fields.read state = .ok fields) :
    LogLine.read source number (fiveWords first code state time) =
      .ok ⟨time, source, number, String.ofList (fiveWords first code state time), fields⟩ := by
  have hmore : Trailing [] := by simp [Trailing]
  have h := read_fiveWords_append source number hfirst hcode hstate htime hfields hmore
  rwa [List.append_nil, trimEnd_fiveWords hstate] at h

/-- In a line of five words every blank is a space. -/
theorem eq_space_of_mem_fiveWords {c : Char} (hfirst : IsWord first) (hcode : IsWord code)
    (hstate : IsWord state) (h : c ∈ fiveWords first code state time) (hc : isBlank c = true) :
    c = ' ' := by
  simp only [fiveWords, writeTimestamp, List.mem_append, List.mem_cons] at h
  rcases h with h | h | (h | h | h) | h | h | h | h
  · simp [hfirst.blankFree c h] at hc
  · exact h
  · simp [isBlank_of_mem_dateText h] at hc
  · exact h
  · simp [isBlank_of_mem_timeText h] at hc
  · exact h
  · simp [hcode.blankFree c h] at hc
  · exact h
  · simp [hstate.blankFree c h] at hc

end ReplicaTrace
