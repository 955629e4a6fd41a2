import Mathlib.Data.Nat.Notation
import ReplicaTrace.Event.OfLine
import ReplicaTrace.Proofs.Results

/-!
# What is read from a line

A line is read exactly if its second, third and fifth word are a date, a time and fields, and what
is read has them as its content.  It gives an event exactly if four of its fields are as they should
be.  The file and the number of the line are handed through.

* `LogLine.read_eq_ok_iff`, `LogLine.line_of_read_eq_error` : reading a line.
* `Event.ofLine_eq_ok_iff` : the event of a line.
* `Normalized.ofLines_cons_of_ok`, `Normalized.ofLines_cons_of_error` : the events of one line more.
-/

namespace ReplicaTrace

open Text Calendar

/-! ### Lines -/

namespace LogLine

variable {source : Source} {number : ℕ} {raw : List Char}

theorem part_eq_ok_iff {words : List (List Char)} {p : Part} {word : List Char} :
    part words number p = .ok word ↔ words[p.position]? = some word := by
  unfold part
  cases words[p.position]? <;> simp

/-- **A line is read** exactly if date, time and fields can be. -/
theorem read_eq_ok_iff {l : LogLine} :
    read source number raw = .ok l ↔ ∃ date time state millis fields,
      (words raw)[1]? = some date ∧ (words raw)[2]? = some time ∧ (words raw)[4]? = some state ∧
        readTimestamp (date ++ ' ' :: time) = .ok millis ∧ Fields.read state = .ok fields ∧
          l = ⟨millis, source, number, String.ofList (trimEnd raw), fields⟩ := by
  simp only [read, except_bind_eq_ok_iff, part_eq_ok_iff, Part.position]
  constructor
  · rintro ⟨date, hdate, time, htime, state, hstate, h⟩
    split at h
    · next millis hmillis =>
      obtain ⟨_, hm, h⟩ := except_bind_eq_ok_iff.1 h
      cases hm
      split at h
      · next fields hfields =>
        cases h
        exact ⟨date, time, state, millis, fields, hdate, htime, hstate, hmillis, hfields, rfl⟩
      · cases h
    · cases h
  · rintro ⟨date, time, state, millis, fields, hdate, htime, hstate, hmillis, hfields, rfl⟩
    refine ⟨date, hdate, time, htime, state, hstate, ?_⟩
    rw [hmillis, hfields]
    rfl

theorem line_of_part_eq_error {words : List (List Char)} {p : Part} {e : LineError}
    (h : part words number p = .error e) : e.line = number := by
  unfold part at h
  split at h
  · cases h
  · cases h
    rfl

/-- A fault names the line. -/
theorem line_of_read_eq_error {e : LineError} (h : read source number raw = .error e) :
    e.line = number := by
  rcases except_bind_eq_error_iff.1 h with h | ⟨date, -, h⟩
  · exact line_of_part_eq_error h
  rcases except_bind_eq_error_iff.1 h with h | ⟨time, -, h⟩
  · exact line_of_part_eq_error h
  rcases except_bind_eq_error_iff.1 h with h | ⟨state, -, h⟩
  · exact line_of_part_eq_error h
  dsimp only at h
  split at h
  · obtain h | ⟨_, -, h⟩ := except_bind_eq_error_iff.1 h
    · cases h
    · split at h
      · cases h
      · cases h
        rfl
  · cases h
    rfl

end LogLine

/-! ### Events -/

theorem required_eq_ok_iff {fields : Fields} {field : EventField} {value : String} :
    required fields field = .ok value ↔ fields.get? field.key = some value ∧ value ≠ "" := by
  unfold required
  cases fields.get? field.key with
  | none => simp
  | some v =>
    by_cases hempty : v = ""
    · simp [hempty]
    · simp only [hempty, if_false, Except.ok.injEq, Option.some.injEq]
      exact ⟨fun h => ⟨h, h ▸ hempty⟩, fun h => h.1⟩

/-- **A line gives an event** exactly if its four fields can be read. -/
theorem Event.ofLine_eq_ok_iff {l : LogLine} {e : Event} :
    Event.ofLine l = .ok e ↔ ∃ action id slotText slot ballotText ballot,
      required l.fields .action = .ok action ∧ required l.fields .id = .ok id ∧
        required l.fields .slot = .ok slotText ∧ readSlot slotText = .ok slot ∧
        l.fields.get? EventField.ballot.key = some ballotText ∧ readBallot ballotText = .ok ballot ∧
          e = ⟨l.time, l.source, l.number, l.raw, .ofLabel action, ⟨id⟩, slot, ballot⟩ := by
  simp only [Event.ofLine, except_bind_eq_ok_iff]
  constructor
  · rintro ⟨action, haction, id, hid, slotText, htext, slot, hslot, h⟩
    split at h
    · next ballotText hballotText =>
      obtain ⟨ballot, hballot, h⟩ := except_bind_eq_ok_iff.1 h
      cases h
      exact ⟨action, id, slotText, slot, ballotText, ballot, haction, hid, htext, hslot,
        hballotText, hballot, rfl⟩
    · cases h
  · rintro ⟨action, id, slotText, slot, ballotText, ballot, haction, hid, htext, hslot,
      hballotText, hballot, rfl⟩
    refine ⟨action, haction, id, hid, slotText, htext, slot, hslot, ?_⟩
    rw [hballotText]
    exact except_bind_eq_ok_iff.2 ⟨ballot, hballot, rfl⟩

/-- The event names the file and the line. -/
theorem Event.origin_of_ofLine {l : LogLine} {e : Event} (h : Event.ofLine l = .ok e) :
    e.source = l.source ∧ e.line = l.number := by
  obtain ⟨_, _, _, _, _, _, -, -, -, -, -, -, rfl⟩ := Event.ofLine_eq_ok_iff.1 h
  exact ⟨rfl, rfl⟩

/-! ### The events of lines -/

section

variable {l : LogLine} (ls : List LogLine)

theorem Normalized.ofLines_cons_of_ok {e : Event} (h : Event.ofLine l = .ok e) :
    ofLines (l :: ls) = ⟨e :: (ofLines ls).events, (ofLines ls).faults,
      { events := 1 } + (ofLines ls).tally⟩ := by
  simp [ofLines, h, Except.toOption]

theorem Normalized.ofLines_cons_of_error {e : EventError} (h : Event.ofLine l = .error e) :
    ofLines (l :: ls) = ⟨(ofLines ls).events, (l.number, e) :: (ofLines ls).faults,
      .skip e.reason + (ofLines ls).tally⟩ := by
  simp [ofLines, h, Except.toOption]

end

end ReplicaTrace
