import ReplicaTrace.Log.Contents
import ReplicaTrace.Proofs.Log.Reading
import ReplicaTrace.Proofs.Text.Encoding

/-!
# Relevant lines

A line is relevant when the marker stands in it, whether the line is a text or not: of a text, the
reading with replacement characters is the text itself.  A relevant line is read or it is a fault,
and either way the line is named.

* `IsRelevant` : the marker stands in the line.
* `readLine_of_isRelevant`, `readLine_of_not_isRelevant` : what becomes of a line.
-/

namespace ReplicaTrace

/-- The marker stands in the line, read with replacement characters where it is no text. -/
def IsRelevant (marker : String) (bytes : Bytes) : Prop :=
  marker.toList <:+: Utf8.lossy bytes

instance (marker : String) (bytes : Bytes) : Decidable (IsRelevant marker bytes) :=
  decidable_of_iff (occursIn marker.toList (Utf8.lossy bytes) = true) occursIn_iff

/-- The number of a line, if it is relevant. -/
def Reading.relevant? : Reading → Option ℕ
  | irrelevant _ => none
  | line l => some l.number
  | fault e => some e.line

theorem Reading.line?_eq_some_iff {r : Reading} {l : LogLine} : r.line? = some l ↔ r = .line l := by
  cases r <;> simp [line?]

theorem Reading.fault?_eq_some_iff {r : Reading} {e : LineError} :
    r.fault? = some e ↔ r = .fault e := by
  cases r <;> simp [fault?]

variable {marker : String} {bytes : Bytes}

theorem readLine_of_not_isRelevant (source : Source) (number : ℕ) (h : ¬ IsRelevant marker bytes) :
    ∃ isText, readLine marker source number bytes = .irrelevant isText := by
  unfold IsRelevant at h
  unfold readLine
  cases htext : Utf8.decode? bytes with
  | none =>
    exact ⟨false, if_neg fun hocc => h (occursIn_iff.1 hocc)⟩
  | some text =>
    rw [Utf8.lossy_of_decode? htext] at h
    exact ⟨true, if_neg fun hocc => h (occursIn_iff.1 hocc)⟩

theorem readLine_of_isRelevant (source : Source) (number : ℕ) (h : IsRelevant marker bytes) :
    (∃ l, readLine marker source number bytes = .line l ∧ l.source = source ∧ l.number = number) ∨
      ∃ e, readLine marker source number bytes = .fault e ∧ e.line = number := by
  unfold IsRelevant at h
  unfold readLine
  cases htext : Utf8.decode? bytes with
  | none =>
    dsimp only
    rw [if_pos (occursIn_iff.2 h)]
    exact .inr ⟨_, rfl, rfl⟩
  | some text =>
    rw [Utf8.lossy_of_decode? htext] at h
    dsimp only
    rw [if_pos (occursIn_iff.2 h)]
    cases hread : LogLine.read source number text with
    | error e => exact .inr ⟨e, rfl, LogLine.line_of_read_eq_error hread⟩
    | ok l =>
      obtain ⟨_, _, _, _, _, -, -, -, -, -, rfl⟩ := LogLine.read_eq_ok_iff.1 hread
      exact .inl ⟨_, rfl, rfl, rfl⟩

/-- A line that was read names its file and its number. -/
theorem origin_of_readLine_eq_line {source : Source} {number : ℕ} {l : LogLine}
    (h : readLine marker source number bytes = .line l) : l.source = source ∧ l.number = number := by
  by_cases hrel : IsRelevant marker bytes
  · rcases readLine_of_isRelevant source number hrel with ⟨l', hl, horigin⟩ | ⟨e, he, -⟩
    · obtain rfl := Reading.line.inj (h.symm.trans hl)
      exact horigin
    · cases h.symm.trans he
  · obtain ⟨isText, hirr⟩ := readLine_of_not_isRelevant source number hrel
    cases h.symm.trans hirr

/-- A line that is a fault names its number. -/
theorem line_of_readLine_eq_fault {source : Source} {number : ℕ} {e : LineError}
    (h : readLine marker source number bytes = .fault e) : e.line = number := by
  by_cases hrel : IsRelevant marker bytes
  · rcases readLine_of_isRelevant source number hrel with ⟨l, hl, -⟩ | ⟨e', he, hline⟩
    · cases h.symm.trans hl
    · obtain rfl := Reading.fault.inj (h.symm.trans he)
      exact hline
  · obtain ⟨isText, hirr⟩ := readLine_of_not_isRelevant source number hrel
    cases h.symm.trans hirr

/-- Lines are relevant as their readings are. -/
theorem relevant?_readLine (source : Source) (number : ℕ) :
    (readLine marker source number bytes).relevant? =
      if IsRelevant marker bytes then some number else none := by
  split
  · next hrel =>
    rcases readLine_of_isRelevant source number hrel with ⟨l, hl, -, rfl⟩ | ⟨e, he, rfl⟩
    · rw [hl, Reading.relevant?]
    · rw [he, Reading.relevant?]
  · next hrel =>
    obtain ⟨isText, hirr⟩ := readLine_of_not_isRelevant source number hrel
    rw [hirr, Reading.relevant?]

end ReplicaTrace
