import ReplicaTrace.Proofs.Event.Numerals
import ReplicaTrace.Proofs.Log.Contents
import ReplicaTrace.Proofs.Log.Fields
import ReplicaTrace.Proofs.Log.Written

/-!
# Records of events

A record of an event is written as a line of five words with four fields.  The line gives the event
back, up to the greatest slot and the least and the greatest round.

* `Record`, `Record.Writable` : a record, and when it can be written.
* `Record.fields_read` : the fields of a record.
* `Record.ofLine_logLine` : the event of a record.
-/

namespace ReplicaTrace

open Text Calendar

/-- A record of an event. -/
structure Record where
  /-- The first word of the line. -/
  first : String
  /-- The moment, in milliseconds since the start of 1970. -/
  time : ℤ
  /-- The place in the code. -/
  code : String
  /-- The id of the server. -/
  server : String
  /-- The label of the action. -/
  label : String
  /-- The slot. -/
  slot : ℕ
  /-- The first part of the ballot. -/
  major : String
  /-- The second part of the ballot. -/
  minor : String
  /-- The round of the ballot. -/
  round : ℤ
deriving DecidableEq

namespace Record

variable (r : Record)

/-- The ballot as it is written. -/
def ballotText : String :=
  r.major ++ "." ++ r.minor ++ "." ++ toString r.round

/-- The fields as they are written. -/
def state : String :=
  "ID:" ++ r.server ++ ",action:" ++ r.label ++ ",slot:" ++ toString r.slot ++ ",ballot:" ++
    r.ballotText

/-- The line of the record. -/
def line : List Char :=
  fiveWords r.first.toList r.code.toList r.state.toList r.time

/-- The event of a record in a line of a file. -/
def event (source : Source) (number : ℕ) : Event where
  time := r.time
  source := source
  line := number
  raw := String.ofList r.line
  action := .ofLabel r.label
  server := ⟨r.server⟩
  slot := r.slot
  ballot := r.round

/-- A text can stand in a field: it is a word without a comma. -/
structure IsValue (text : String) : Prop where
  isWord : IsWord text.toList
  comma : ',' ∉ text.toList

theorem IsValue.ne_empty {text : String} (h : IsValue text) : text ≠ "" :=
  fun hempty => h.isWord.ne_nil (String.toList_eq_nil_iff.2 hempty)

instance (text : String) : Decidable (IsValue text) :=
  decidable_of_iff (IsWord text.toList ∧ ',' ∉ text.toList)
    ⟨fun ⟨h₁, h₂⟩ => ⟨h₁, h₂⟩, fun ⟨h₁, h₂⟩ => ⟨h₁, h₂⟩⟩

/-- **The record can be written**: the first word and the place in the code are words, the year has
four digits, id and label are words without a comma, the slot is below `2^64`, the ballot is in
digits, and its round is a number of 64 bits with a sign. -/
structure Writable : Prop where
  first : IsWord r.first.toList
  time : HasFourDigitYear r.time
  code : IsWord r.code.toList
  server : IsValue r.server
  label : IsValue r.label
  slot : r.slot ≤ max64
  major : ∀ c ∈ r.major.toList, c.isDigit = true
  minor : ∀ c ∈ r.minor.toList, c.isDigit = true
  round : -(bound64 : ℤ) ≤ r.round ∧ r.round < bound64

instance : Decidable r.Writable :=
  decidable_of_iff (IsWord r.first.toList ∧ HasFourDigitYear r.time ∧ IsWord r.code.toList ∧
      IsValue r.server ∧ IsValue r.label ∧ r.slot ≤ max64 ∧ r.major.toList.all Char.isDigit = true ∧
      r.minor.toList.all Char.isDigit = true ∧ -(bound64 : ℤ) ≤ r.round ∧ r.round < bound64)
    ⟨fun ⟨h₁, h₂, h₃, h₄, h₅, h₆, h₇, h₈, h₉⟩ =>
        ⟨h₁, h₂, h₃, h₄, h₅, h₆, List.all_eq_true.1 h₇, List.all_eq_true.1 h₈, h₉⟩,
      fun ⟨h₁, h₂, h₃, h₄, h₅, h₆, h₇, h₈, h₉⟩ =>
        ⟨h₁, h₂, h₃, h₄, h₅, h₆, List.all_eq_true.2 h₇, List.all_eq_true.2 h₈, h₉⟩⟩

variable {r}

/-! ### The fields -/

/-- The fields of the record. -/
def pairs (r : Record) : List (String × String) :=
  [("ID", r.server), ("action", r.label), ("slot", toString r.slot), ("ballot", r.ballotText)]

theorem state_eq (r : Record) :
    r.state.toList = [','].intercalate (r.pairs.map Fields.fieldText) := by
  simp [state, pairs, Fields.fieldText, List.intercalate_cons_cons]

theorem mem_ballotText (h : r.Writable) {c : Char} (hc : c ∈ r.ballotText.toList) :
    c = '.' ∨ c = '-' ∨ c.isDigit = true := by
  simp only [ballotText, String.toList_append, List.mem_append] at hc
  rcases hc with (((hc | hc) | hc) | hc) | hc
  · exact .inr (.inr (h.major c hc))
  · exact .inl (List.mem_singleton.1 hc)
  · exact .inr (.inr (h.minor c hc))
  · exact .inl (List.mem_singleton.1 hc)
  · exact .inr (mem_toString_int hc)

theorem isValue_ballotText (h : r.Writable) : IsValue r.ballotText where
  isWord := by
    refine ⟨?_, fun c hc => ?_⟩
    · simp [ballotText]
    · rcases mem_ballotText h hc with rfl | rfl | hdigit
      · decide
      · decide
      · exact isBlank_of_isDigit hdigit
  comma hc := by
    rcases mem_ballotText h hc with hdot | hminus | hdigit
    · cases hdot
    · cases hminus
    · cases hdigit

theorem isValue_toString (n : ℕ) : IsValue (toString n) where
  isWord := ⟨fun h => toString_ne_empty n (String.toList_eq_nil_iff.1 h),
    fun _ hc => isBlank_of_isDigit (isDigit_of_mem_toString hc)⟩
  comma hc := by cases isDigit_of_mem_toString hc

/-- The four values can stand in a field. -/
theorem isValue_of_mem_pairs (h : r.Writable) {p : String × String} (hp : p ∈ r.pairs) :
    IsValue p.2 := by
  simp only [pairs, List.mem_cons, List.not_mem_nil, or_false] at hp
  rcases hp with rfl | rfl | rfl | rfl
  · exact h.server
  · exact h.label
  · exact isValue_toString r.slot
  · exact isValue_ballotText h

theorem readable_of_mem_pairs (h : r.Writable) {p : String × String} (hp : p ∈ r.pairs) :
    Fields.Readable p := by
  have hvalue := isValue_of_mem_pairs h hp
  have hkey : p.1 ≠ "" ∧ ':' ∉ p.1.toList ∧ ',' ∉ p.1.toList := by
    have hkeys : ∀ k ∈ ["ID", "action", "slot", "ballot"],
        k ≠ "" ∧ ':' ∉ k.toList ∧ ',' ∉ k.toList := by decide
    exact hkeys p.1 (List.mem_map_of_mem (f := Prod.fst) hp)
  refine ⟨hkey.1, hkey.2.1, fun hcomma => ?_⟩
  rcases List.mem_append.1 hcomma with hcomma | hcomma
  · exact hkey.2.2 hcomma
  · rcases List.mem_cons.1 hcomma with hcomma | hcomma
    · cases hcomma
    · exact hvalue.comma hcomma

/-- The fields of the record are read back. -/
theorem read_state (h : r.Writable) : Fields.read r.state.toList = .ok (Fields.ofList r.pairs) := by
  rw [state_eq]
  exact Fields.read_intercalate (List.cons_ne_nil _ _) fun p hp => readable_of_mem_pairs h hp

theorem isWord_state (h : r.Writable) : IsWord r.state.toList := by
  refine ⟨by simp [state], fun c hc => ?_⟩
  simp only [state, String.toList_append, List.mem_append] at hc
  rcases hc with ((((((hc | hc) | hc) | hc) | hc) | hc) | hc) | hc
  · exact (show IsWord "ID:".toList by decide).blankFree c hc
  · exact h.server.isWord.blankFree c hc
  · exact (show IsWord ",action:".toList by decide).blankFree c hc
  · exact h.label.isWord.blankFree c hc
  · exact (show IsWord ",slot:".toList by decide).blankFree c hc
  · exact (isValue_toString r.slot).isWord.blankFree c hc
  · exact (show IsWord ",ballot:".toList by decide).blankFree c hc
  · exact (isValue_ballotText h).isWord.blankFree c hc

/-! ### The event -/

/-- The line of the record as it is read. -/
def logLine (r : Record) (source : Source) (number : ℕ) : LogLine :=
  ⟨r.time, source, number, String.ofList r.line, Fields.ofList r.pairs⟩

theorem read_line (h : r.Writable) (source : Source) (number : ℕ) :
    LogLine.read source number r.line = .ok (r.logLine source number) :=
  LogLine.read_fiveWords source number h.first h.code (isWord_state h) h.time (read_state h)

theorem get?_ofList_pairs (r : Record) :
    (Fields.ofList r.pairs).get? "ID" = some r.server ∧
      (Fields.ofList r.pairs).get? "action" = some r.label ∧
      (Fields.ofList r.pairs).get? "slot" = some (toString r.slot) ∧
      (Fields.ofList r.pairs).get? "ballot" = some r.ballotText := by
  simp [Fields.ofList, pairs, Fields.get?_insert]

theorem readBallot_ballotText (h : r.Writable) : readBallot r.ballotText = .ok r.round :=
  readBallot_toString (fun hdot => by cases h.major '.' hdot) (fun hdot => by cases h.minor '.' hdot)
    h.round.1 h.round.2

/-- **The line of a record gives its event.** -/
theorem ofLine_logLine (h : r.Writable) (source : Source) (number : ℕ) :
    Event.ofLine (r.logLine source number) = .ok (r.event source number) := by
  obtain ⟨hid, haction, hslot, hballot⟩ := get?_ofList_pairs r
  refine Event.ofLine_eq_ok_iff.2 ⟨r.label, r.server, toString r.slot, r.slot, r.ballotText,
    r.round, ?_, ?_, ?_, ?_, hballot, readBallot_ballotText h, rfl⟩
  · exact required_eq_ok_iff.2 ⟨haction, h.label.ne_empty⟩
  · exact required_eq_ok_iff.2 ⟨hid, h.server.ne_empty⟩
  · exact required_eq_ok_iff.2 ⟨hslot, (isValue_toString r.slot).ne_empty⟩
  · rw [readSlot, readNat_toString h.slot]

/-! ### The bytes of the line -/

theorem notMem_encode_line (h : r.Writable) {b : UInt8} (hb : b.toNat < 0x80)
    (hblank : isBlank (Char.ofNat b.toNat) = true) (hspace : b ≠ 0x20) :
    b ∉ Utf8.encode r.line := by
  intro hmem
  obtain ⟨c, hc, hcb⟩ := Utf8.exists_mem_of_mem_encode hmem hb
  rw [← hcb, Char.ofNat_toNat] at hblank
  -- the only blanks in the line are spaces
  obtain rfl := eq_space_of_mem_fiveWords h.first h.code (isWord_state h) hc hblank
  exact hspace (UInt8.toNat_inj.1 hcb.symm)

/-- A line feed would end the line too early. -/
theorem lineFeed_notMem (h : r.Writable) : lineFeed ∉ Utf8.encode r.line :=
  notMem_encode_line h (by decide) (by decide) (by decide)

/-- A carriage return at the end would be dropped. -/
theorem dropFinal_encode_line (h : r.Writable) :
    dropFinal carriageReturn (Utf8.encode r.line) = Utf8.encode r.line :=
  dropFinal_of_getLast?_ne fun hlast => notMem_encode_line h (by decide) (by decide) (by decide)
    (List.mem_of_getLast? hlast)

end Record

end ReplicaTrace
