import ReplicaTrace.Proofs.Event.Numerals
import ReplicaTrace.Proofs.Log.Reading

/-!
# The first check that a line fails

Whether a line gives an event is decided by four fields, which have to pass five checks; the fault is
the one of the first check that fails.  What the other fields are does not matter, nor does the order
of the fields.

* `Fails` : a check and how it fails.
* `ofLine_eq_error_iff` : the fault of a line.
* `ofLine_eq_map` : lines with the same four fields.
* `ofLine_firstFault` : what becomes of a line and of a list of lines.
-/

namespace ReplicaTrace

/-- What a line is checked for. -/
inductive Check where
  /-- There is an action. -/
  | action
  /-- There is an id. -/
  | id
  /-- There is a slot. -/
  | slot
  /-- The slot is written as it should be. -/
  | slotFormat
  /-- There is a ballot, which is written as it should be. -/
  | ballot
deriving DecidableEq, Repr

namespace Check

/-- The checks before it. -/
def earlier : Check → List Check
  | action => []
  | id => [action]
  | slot => [action, id]
  | slotFormat => [action, id, slot]
  | ballot => [action, id, slot, slotFormat]

/-- The field that is checked. -/
def field : Check → EventField
  | action => .action
  | id => .id
  | slot | slotFormat => .slot
  | ballot => .ballot

/-- The reason under which a line that fails is counted. -/
def reason : Check → SkipReason
  | action | id | slot => .missingField
  | slotFormat | ballot => .format

end Check

/-- A field is absent or empty. -/
def Fields.Lacks (f : Fields) (field : EventField) : Prop :=
  ∀ value, f.get? field.key = some value → value = ""

/-- The fields fail a check with the given fault. -/
inductive Fails (f : Fields) : Check → EventError → Prop
  /-- There is no action. -/
  | action (h : f.Lacks .action) : Fails f .action (.missing .action)
  /-- There is no id. -/
  | id (h : f.Lacks .id) : Fails f .id (.missing .id)
  /-- There is no slot. -/
  | slot (h : f.Lacks .slot) : Fails f .slot (.missing .slot)
  /-- The slot is not written as it should be. -/
  | slotFormat {value : String} {e : EventError} (h : f.get? EventField.slot.key = some value)
      (hread : readSlot value = .error e) : Fails f .slotFormat e
  /-- There is no ballot. -/
  | noBallot (h : f.get? EventField.ballot.key = none) : Fails f .ballot .noBallot
  /-- The ballot is not written as it should be. -/
  | ballot {value : String} {e : EventError} (h : f.get? EventField.ballot.key = some value)
      (hread : readBallot value = .error e) : Fails f .ballot e

variable {f : Fields} {c c' : Check} {e e' : EventError} {l l' : LogLine}

/-- A check fails in one way only. -/
theorem Fails.unique (h : Fails f c e) (h' : Fails f c e') : e = e' := by
  cases h with
  | action | id | slot =>
    cases h'
    rfl
  | slotFormat hvalue hread =>
    cases h' with
    | slotFormat hvalue' hread' =>
      obtain rfl := Option.some.inj (hvalue.symm.trans hvalue')
      exact Except.error.inj (hread.symm.trans hread')
  | noBallot hnone =>
    cases h' with
    | noBallot => rfl
    | ballot hvalue' => cases hnone.symm.trans hvalue'
  | ballot hvalue hread =>
    cases h' with
    | noBallot hnone' => cases hnone'.symm.trans hvalue
    | ballot hvalue' hread' =>
      obtain rfl := Option.some.inj (hvalue.symm.trans hvalue')
      exact Except.error.inj (hread.symm.trans hread')

/-- Every fault names the field of its check, as missing or as one of the format with its value. -/
theorem Fails.names_field (h : Fails f c e) :
    e.reason = c.reason ∧
      (e = .missing c.field ∨ e.IsFormat c.field ((f.get? c.field.key).getD "")) := by
  cases h with
  | action | id | slot => exact ⟨rfl, .inl rfl⟩
  | slotFormat hvalue hread =>
    have hformat := isFormat_of_readSlot_eq_error hread
    exact ⟨hformat.1, .inr (by rwa [Check.field, hvalue])⟩
  | noBallot hnone =>
    exact ⟨rfl, .inr ⟨rfl, "ballot is absent", by rw [Check.field, hnone]; rfl⟩⟩
  | ballot hvalue hread =>
    have hformat := isFormat_of_readBallot_eq_error hread
    exact ⟨hformat.1, .inr (by rwa [Check.field, hvalue])⟩

theorem required_eq_error_iff {field : EventField} :
    required f field = .error e ↔ f.Lacks field ∧ e = .missing field := by
  unfold required Fields.Lacks
  cases f.get? field.key with
  | none => simp [eq_comm]
  | some value =>
    by_cases hempty : value = ""
    · simp [hempty, eq_comm]
    · simp [hempty]

theorem not_lacks_of_required {field : EventField} {value : String}
    (h : required f field = .ok value) : ¬ f.Lacks field := fun hlacks => by
  obtain ⟨hvalue, hne⟩ := required_eq_ok_iff.1 h
  exact hne (hlacks value hvalue)

/-! ### One line -/

/-- A line that gives an event passes all checks. -/
theorem not_fails_of_ofLine_eq_ok {event : Event} (h : Event.ofLine l = .ok event) :
    ¬ Fails l.fields c e := by
  obtain ⟨action, id, slotText, slot, ballotText, ballot, haction, hid, htext, hslot, hballotText,
    hballot, -⟩ := Event.ofLine_eq_ok_iff.1 h
  rintro (hlacks | hlacks | hlacks | ⟨hvalue, hread⟩ | hnone | ⟨hvalue, hread⟩)
  · exact not_lacks_of_required haction hlacks
  · exact not_lacks_of_required hid hlacks
  · exact not_lacks_of_required htext hlacks
  · obtain rfl := Option.some.inj (hvalue.symm.trans (required_eq_ok_iff.1 htext).1)
    cases hread.symm.trans hslot
  · cases hnone.symm.trans hballotText
  · obtain rfl := Option.some.inj (hvalue.symm.trans hballotText)
    cases hread.symm.trans hballot

/-- The fields fail the check with the given fault and pass all checks before it. -/
def FailsFirst (f : Fields) (c : Check) (e : EventError) : Prop :=
  Fails f c e ∧ ∀ c' ∈ c.earlier, ∀ e', ¬ Fails f c' e'

/-- A line that gives no event has the fault of the first check that fails. -/
theorem exists_failsFirst_of_error (h : Event.ofLine l = .error e) :
    ∃ c, FailsFirst l.fields c e := by
  -- the checks are made one after the other, and what was passed is kept for the next ones
  rcases except_bind_eq_error_iff.1 h with haction | ⟨action, haction, h⟩
  · obtain ⟨hlacks, rfl⟩ := required_eq_error_iff.1 haction
    exact ⟨.action, .action hlacks, by simp [Check.earlier]⟩
  have hactions : ∀ e', ¬ Fails l.fields .action e' := fun e' hfails => by
    cases hfails with
    | action hlacks => exact not_lacks_of_required haction hlacks
  rcases except_bind_eq_error_iff.1 h with hid | ⟨id, hid, h⟩
  · obtain ⟨hlacks, rfl⟩ := required_eq_error_iff.1 hid
    exact ⟨.id, .id hlacks, by simpa [Check.earlier] using hactions⟩
  have hids : ∀ e', ¬ Fails l.fields .id e' := fun e' hfails => by
    cases hfails with
    | id hlacks => exact not_lacks_of_required hid hlacks
  rcases except_bind_eq_error_iff.1 h with htext | ⟨slotText, htext, h⟩
  · obtain ⟨hlacks, rfl⟩ := required_eq_error_iff.1 htext
    exact ⟨.slot, .slot hlacks, by simpa [Check.earlier] using ⟨hactions, hids⟩⟩
  have htexts : ∀ e', ¬ Fails l.fields .slot e' := fun e' hfails => by
    cases hfails with
    | slot hlacks => exact not_lacks_of_required htext hlacks
  have hslotText := (required_eq_ok_iff.1 htext).1
  rcases except_bind_eq_error_iff.1 h with hslot | ⟨slot, hslot, h⟩
  · exact ⟨.slotFormat, .slotFormat hslotText hslot,
      by simpa [Check.earlier] using ⟨hactions, hids, htexts⟩⟩
  have hslots : ∀ e', ¬ Fails l.fields .slotFormat e' := fun e' hfails => by
    cases hfails with
    | slotFormat hvalue hread =>
      obtain rfl := Option.some.inj (hvalue.symm.trans hslotText)
      cases hread.symm.trans hslot
  refine ⟨.ballot, ?_, by simpa [Check.earlier] using ⟨hactions, hids, htexts, hslots⟩⟩
  dsimp only at h
  split at h
  · next ballotText hballotText =>
    rcases except_bind_eq_error_iff.1 h with hballot | ⟨ballot, -, h⟩
    · exact .ballot hballotText hballot
    · cases h
  · next hnone =>
    rcases except_bind_eq_error_iff.1 h with hballot | ⟨ballot, hballot, -⟩
    · cases hballot
      exact .noBallot hnone
    · cases hballot

/-- No two checks fail first. -/
theorem FailsFirst.unique (h : FailsFirst f c e) (h' : FailsFirst f c' e') : e = e' := by
  -- of two different checks one is before the other
  have horder : ∀ a b : Check, a = b ∨ a ∈ b.earlier ∨ b ∈ a.earlier := by
    intro a b
    cases a <;> cases b <;> decide
  obtain rfl | hbefore | hbefore := horder c c'
  · exact h.1.unique h'.1
  · exact absurd h.1 (h'.2 c hbefore e)
  · exact absurd h'.1 (h.2 c' hbefore e')

/-- **The fault of a line** is the one of the first check that fails. -/
theorem ofLine_eq_error_iff : Event.ofLine l = .error e ↔ ∃ c, FailsFirst l.fields c e := by
  refine ⟨exists_failsFirst_of_error, fun ⟨c, hfirst⟩ => ?_⟩
  cases hevent : Event.ofLine l with
  | ok event => exact absurd hfirst.1 (not_fails_of_ofLine_eq_ok hevent)
  | error e' =>
    obtain ⟨c', hfirst'⟩ := exists_failsFirst_of_error hevent
    rw [hfirst.unique hfirst']

/-- The event, as if another line had given it. -/
def Event.movedTo (e : Event) (l : LogLine) : Event :=
  { e with time := l.time, source := l.source, line := l.number, raw := l.raw }

/-- **Lines with the same four fields** give the same event or have the same fault. -/
theorem ofLine_eq_map (h : ∀ field : EventField, l.fields.get? field.key = l'.fields.get? field.key) :
    Event.ofLine l' = (Event.ofLine l).map (·.movedTo l') := by
  have hrequired : ∀ field, required l'.fields field = required l.fields field := fun field => by
    rw [required, required, h field]
  unfold Event.ofLine
  simp only [hrequired, ← h]
  rcases required l.fields .action with _ | action
  · rfl
  rcases required l.fields .id with _ | id
  · rfl
  rcases required l.fields .slot with _ | slotText
  · rfl
  rcases hslot : readSlot slotText with _ | slot
  · simp [bind, Except.bind, Except.map, hslot]
  rcases l.fields.get? EventField.ballot.key with _ | ballotText
  · simp [bind, Except.bind, Except.map, hslot]
  rcases hballot : readBallot ballotText with _ | ballot
  · simp [bind, Except.bind, Except.map, hslot, hballot]
  simp [bind, Except.bind, Except.map, hslot, hballot, pure, Except.pure, Event.movedTo]

/-! ### Lists of lines -/

/-- What becomes of lines: some give the events and the others the faults, both in the order of the
lines. -/
structure SplitsLines (lines kept dropped : List LogLine) (n : Normalized) : Prop where
  /-- The lines that give events are in order. -/
  keptInOrder : kept.Sublist lines
  /-- So are the others. -/
  droppedInOrder : dropped.Sublist lines
  /-- Every line is one of the first or one of the others. -/
  perm : (kept ++ dropped).Perm lines
  /-- The events are those of the first. -/
  events : List.Forall₂ (fun l e => Event.ofLine l = .ok e) kept n.events
  /-- The faults are those of the others, with their numbers. -/
  faults : List.Forall₂ (fun l fault => l.number = fault.1 ∧ Event.ofLine l = .error fault.2) dropped
    n.faults

theorem exists_splitsLines (lines : List LogLine) :
    ∃ kept dropped, SplitsLines lines kept dropped (.ofLines lines) := by
  induction lines with
  | nil => exact ⟨[], [], .slnil, .slnil, .nil, .nil, .nil⟩
  | cons l ls ih =>
    obtain ⟨kept, dropped, h⟩ := ih
    cases hevent : Event.ofLine l with
    | ok e =>
      rw [Normalized.ofLines_cons_of_ok ls hevent]
      exact ⟨l :: kept, dropped, h.keptInOrder.cons_cons l, h.droppedInOrder.cons l, h.perm.cons l,
        .cons hevent h.events, h.faults⟩
    | error e =>
      rw [Normalized.ofLines_cons_of_error ls hevent]
      exact ⟨kept, l :: dropped, h.keptInOrder.cons l, h.droppedInOrder.cons_cons l,
        List.perm_middle.trans (h.perm.cons l), h.events, .cons ⟨rfl, hevent⟩ h.faults⟩

/-- **A line is decided by four fields and in a fixed order.**  It gives an event exactly if action,
id and slot are present and not empty, and slot and ballot can be read; the event has these values
and the line's own time, source, number and text.  Otherwise its fault is that of the first check
that fails, which names the checked field and is counted under the check's reason.  Lines with the
same four fields give the same event, up to what is the line's own, or have the same fault.  A list
of lines is split in two, and events and faults keep its order. -/
theorem ofLine_firstFault :
    (∀ (l : LogLine) (e : Event), Event.ofLine l = .ok e ↔
      ∃ action id slotText slot ballotText ballot,
        l.fields.get? EventField.action.key = some action ∧ action ≠ "" ∧
          l.fields.get? EventField.id.key = some id ∧ id ≠ "" ∧
          l.fields.get? EventField.slot.key = some slotText ∧ slotText ≠ "" ∧
          readSlot slotText = .ok slot ∧
          l.fields.get? EventField.ballot.key = some ballotText ∧
          readBallot ballotText = .ok ballot ∧
            e = ⟨l.time, l.source, l.number, l.raw, .ofLabel action, ⟨id⟩, slot, ballot⟩) ∧
      (∀ (l : LogLine) (e : EventError), Event.ofLine l = .error e ↔
        ∃ c, FailsFirst l.fields c e) ∧
      (∀ (f : Fields) (c : Check) (e : EventError), Fails f c e → e.reason = c.reason ∧
        (e = .missing c.field ∨ e.IsFormat c.field ((f.get? c.field.key).getD ""))) ∧
      (∀ l l' : LogLine,
        (∀ field : EventField, l.fields.get? field.key = l'.fields.get? field.key) →
          Event.ofLine l' = (Event.ofLine l).map (·.movedTo l')) ∧
      ∀ lines : List LogLine, ∃ kept dropped, SplitsLines lines kept dropped (.ofLines lines) := by
  refine ⟨fun l e => ?_, fun l e => ofLine_eq_error_iff, fun f c e => Fails.names_field,
    fun l l' => ofLine_eq_map, exists_splitsLines⟩
  simp only [Event.ofLine_eq_ok_iff, required_eq_ok_iff, and_assoc]

/-- A line with the four fields. -/
def orderlyLine : LogLine :=
  ⟨5, ⟨0, "s0.log"⟩, 1, "", .ofList [("ID", "0"), ("action", "P2a"), ("slot", "+7"),
    ("ballot", "1.0.2")]⟩

/-- A line with the same four fields in another order and one field more. -/
def shuffledLine : LogLine :=
  ⟨6, ⟨0, "s0.log"⟩, 2, "", .ofList [("ballot", "1.0.2"), ("note", ""), ("slot", "+7"),
    ("action", "P2a"), ("ID", "0")]⟩

/-- A line with an empty id, no ballot and a slot that is no number. -/
def faultyLine : LogLine :=
  ⟨7, ⟨0, "s0.log"⟩, 3, "", .ofList [("slot", "seven"), ("ID", ""), ("action", "P2a")]⟩

theorem ofLine_firstFault_threeLines :
    Event.ofLine orderlyLine = .ok ⟨5, ⟨0, "s0.log"⟩, 1, "", .p2a, ⟨"0"⟩, 7, 2⟩ ∧
      Event.ofLine shuffledLine = (Event.ofLine orderlyLine).map (·.movedTo shuffledLine) ∧
      Event.ofLine faultyLine = .error (.missing .id) := by
  obtain ⟨hok, herror, -, hsame, -⟩ := ofLine_firstFault
  have hid : faultyLine.fields.get? EventField.id.key = some "" := by decide
  have haction : faultyLine.fields.get? EventField.action.key = some "P2a" := by decide
  refine ⟨(hok _ _).2 ⟨"P2a", "0", "+7", 7, "1.0.2", 2, by decide +kernel⟩,
    hsame _ _ fun field => ?_,
    (herror _ _).2 ⟨.id, .id fun value hvalue => ?_, fun c hc e hfails => ?_⟩⟩
  · cases field <;> decide
  · exact (Option.some.inj (hid.symm.trans hvalue)).symm
  · obtain rfl := List.mem_singleton.1 hc
    cases hfails with
    | action hlacks => exact absurd (hlacks "P2a" haction) (by decide)

end ReplicaTrace
