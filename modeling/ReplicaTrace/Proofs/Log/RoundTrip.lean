import ReplicaTrace.Proofs.Log.Fields
import ReplicaTrace.Proofs.Log.Written

/-!
# Lines that are read and written

A line that is written gives back its moment and its fields.  The fields of a line that was read
can always be written: they were cut out of one word, at the commas and at the first colon of each
piece, so that nothing in them can be mistaken for a blank, a comma or the end of a key.  Writing
what was read and reading it again therefore changes nothing.

* `Fields.Writable` : the fields can be written.
* `Fields.read_write`, `Fields.writable_of_read` : fields that are written, fields that were read.
* `LogLine.read_write_read` : whole lines, both ways.
-/

namespace ReplicaTrace

open Text Calendar

namespace Fields

/-- **The fields can be written**: there is at least one; no key is empty, and none has a blank, a
comma or a colon in it; no value has a blank or a comma in it. -/
structure Writable (f : Fields) : Prop where
  nonempty : f.entries ≠ []
  key_ne : ∀ p ∈ f.entries, p.1 ≠ ""
  key : ∀ p ∈ f.entries, ∀ c ∈ p.1.toList, isBlank c = false ∧ c ≠ ',' ∧ c ≠ ':'
  value : ∀ p ∈ f.entries, ∀ c ∈ p.2.toList, isBlank c = false ∧ c ≠ ','

instance (f : Fields) : Decidable f.Writable :=
  decidable_of_iff (f.entries ≠ [] ∧ (∀ p ∈ f.entries, p.1 ≠ "") ∧
      (∀ p ∈ f.entries, p.1.toList.all fun c => isBlank c = false ∧ c ≠ ',' ∧ c ≠ ':') ∧
      ∀ p ∈ f.entries, p.2.toList.all fun c => isBlank c = false ∧ c ≠ ',') <| by
    simp only [List.all_eq_true, decide_eq_true_eq]
    exact ⟨fun ⟨h₁, h₂, h₃, h₄⟩ => ⟨h₁, h₂, h₃, h₄⟩, fun ⟨h₁, h₂, h₃, h₄⟩ => ⟨h₁, h₂, h₃, h₄⟩⟩

variable {f : Fields} {text : List Char}

theorem write_eq (f : Fields) : f.write = [','].intercalate (f.entries.map fieldText) := rfl

theorem mem_fieldText {p : String × String} {c : Char} :
    c ∈ fieldText p ↔ c ∈ p.1.toList ∨ c = ':' ∨ c ∈ p.2.toList := by
  simp [fieldText]

/-- Fields without blanks are one word, with the commas between them. -/
theorem isWord_intercalate {pairs : List (String × String)} (hne : pairs ≠ [])
    (hblank : ∀ p ∈ pairs, ∀ c ∈ fieldText p, isBlank c = false) :
    IsWord ([','].intercalate (pairs.map fieldText)) where
  ne_nil hnil := by
    obtain ⟨p, hp⟩ := List.exists_mem_of_ne_nil _ hne
    have hcolon : ':' ∈ [','].intercalate (pairs.map fieldText) :=
      mem_intercalate_of_mem (List.mem_map_of_mem hp) (mem_fieldText.2 (.inr (.inl rfl)))
    rw [hnil] at hcolon
    cases hcolon
  blankFree c hc := by
    rcases mem_intercalate hc with rfl | ⟨piece, hpiece, hc⟩
    · decide
    · obtain ⟨p, hp, rfl⟩ := List.mem_map.1 hpiece
      exact hblank p hp c hc

namespace Writable

theorem readable (h : f.Writable) {p : String × String} (hp : p ∈ f.entries) : Readable p where
  key_ne := h.key_ne p hp
  colon hcolon := (h.key p hp ':' hcolon).2.2 rfl
  comma hcomma := by
    rcases mem_fieldText.1 hcomma with hkey | hcolon | hvalue
    · exact (h.key p hp ',' hkey).2.1 rfl
    · cases hcolon
    · exact (h.value p hp ',' hvalue).2 rfl

/-- The fields are written as one word. -/
theorem isWord_write (h : f.Writable) : IsWord f.write := by
  refine isWord_intercalate h.nonempty fun p hp c hc => ?_
  rcases mem_fieldText.1 hc with hkey | rfl | hvalue
  · exact (h.key p hp c hkey).1
  · decide
  · exact (h.value p hp c hvalue).1

end Writable

/-- **Fields that are written** are read back. -/
theorem read_write (h : f.Writable) : read f.write = .ok f := by
  rw [write_eq, read_intercalate h.nonempty fun _ hp => h.readable hp, ofList_entries]

/-- **Fields that were read** from a word can be written. -/
theorem writable_of_read (hword : IsWord text) (h : read text = .ok f) : f.Writable := by
  obtain ⟨pairs, hne, hreadable, rfl, rfl⟩ := read_eq_ok_iff.1 h
  have hblank : ∀ p ∈ pairs, ∀ c ∈ fieldText p, isBlank c = false := fun p hp c hc =>
    hword.blankFree c (mem_intercalate_of_mem (List.mem_map_of_mem hp) hc)
  refine ⟨entries_ofList_ne_nil hne, fun p hp => ?_, fun p hp c hc => ?_, fun p hp c hc => ?_⟩
  · exact (hreadable p (mem_of_mem_ofList hp)).key_ne
  · have hp := mem_of_mem_ofList hp
    have hmem : c ∈ fieldText p := mem_fieldText.2 (.inl hc)
    exact ⟨hblank p hp c hmem, fun h => (hreadable p hp).comma (h ▸ hmem),
      fun h => (hreadable p hp).colon (h ▸ hc)⟩
  · have hp := mem_of_mem_ofList hp
    have hmem : c ∈ fieldText p := mem_fieldText.2 (.inr (.inr hc))
    exact ⟨hblank p hp c hmem, fun h => (hreadable p hp).comma (h ▸ hmem)⟩

end Fields

namespace LogLine

variable {first code : List Char}

theorem write_eq_fiveWords (time : ℤ) (fields : Fields) :
    write first code time fields = fiveWords first code fields.write time := by
  simp [write, fiveWords]

theorem read_write (hfirst : IsWord first) (hcode : IsWord code) (source : Source) (number : ℕ)
    {time : ℤ} {fields : Fields} {more : List Char} (htime : HasFourDigitYear time)
    (hfields : fields.Writable) (hmore : Trailing more) :
    read source number (write first code time fields ++ more) = .ok ⟨time, source, number,
      String.ofList (trimEnd (write first code time fields ++ more)), fields⟩ := by
  rw [write_eq_fiveWords]
  exact read_fiveWords_append source number hfirst hcode hfields.isWord_write htime
    (Fields.read_write hfields) hmore

theorem writable_fields_of_read {source : Source} {number : ℕ} {raw : List Char} {l : LogLine}
    (h : read source number raw = .ok l) : l.fields.Writable := by
  obtain ⟨_, _, state, _, _, -, -, hstate, -, hfields, rfl⟩ := read_eq_ok_iff.1 h
  exact Fields.writable_of_read (isWord_of_mem_words (List.mem_of_getElem? hstate)) hfields

/-- **Lines are read and written without loss.**  The first word and the place in the code may be
any words, and more text may follow after a space.

A moment of a year with four digits and fields that can be written, written as a line, are read as
this moment and these fields.  Of any line that is read with such a moment the fields can be
written, and its moment and its fields, written as a line, are read again as they were. -/
theorem read_write_read (hfirst : IsWord first) (hcode : IsWord code) {more : List Char}
    (hmore : Trailing more) (source : Source) (number : ℕ) :
    (∀ (time : ℤ) (fields : Fields), HasFourDigitYear time → fields.Writable →
      ∃ l, read source number (write first code time fields ++ more) = .ok l ∧
        l.time = time ∧ l.fields = fields) ∧
    ∀ (source' : Source) (number' : ℕ) (raw : List Char) (l : LogLine),
      read source' number' raw = .ok l → HasFourDigitYear l.time →
      l.fields.Writable ∧
        ∃ l', read source number (write first code l.time l.fields ++ more) = .ok l' ∧
          l'.time = l.time ∧ l'.fields = l.fields := by
  have hback : ∀ (time : ℤ) (fields : Fields), HasFourDigitYear time → fields.Writable →
      ∃ l, read source number (write first code time fields ++ more) = .ok l ∧
        l.time = time ∧ l.fields = fields := fun time fields htime hfields =>
    ⟨_, read_write hfirst hcode source number htime hfields hmore, rfl, rfl⟩
  refine ⟨hback, fun source' number' raw l hread htime => ?_⟩
  have hfields := writable_fields_of_read hread
  exact ⟨hfields, hback l.time l.fields htime hfields⟩

/-- Fields with an empty value and a value that has colons in it. -/
def addressFields : Fields :=
  .ofList [("ID", ""), ("addr", "tcp://10.0.0.1:1735")]

/-- A line that is not as it would be written: tabs and a no-break space, numbers without zeros in
front, a second `60`, a key that occurs twice, and a word too many. -/
def unevenLine : List Char :=
  "x\t2000/2/29\u00a07:5:60.25 y a:b:c,k:,a:é z".toList

theorem read_write_read_unevenLine :
    IsWord "[T]".toList ∧ IsWord "p.go:1:".toList ∧ Trailing " and so on".toList ∧
      (HasFourDigitYear (-62167219200000) ∧ addressFields.Writable ∧
        ∃ l, read ⟨1, "b.log"⟩ 8 (write "[T]".toList "p.go:1:".toList (-62167219200000)
            addressFields ++ " and so on".toList) = .ok l ∧
          l.time = -62167219200000 ∧ l.fields = addressFields) ∧
      ∃ l, read ⟨0, "a.log"⟩ 7 unevenLine = .ok l ∧ HasFourDigitYear l.time ∧
        l.fields.Writable ∧
          ∃ l', read ⟨1, "b.log"⟩ 8 (write "[T]".toList "p.go:1:".toList l.time l.fields ++
              " and so on".toList) = .ok l' ∧
            l'.time = l.time ∧ l'.fields = l.fields := by
  have hfirst : IsWord "[T]".toList := by decide
  have hcode : IsWord "p.go:1:".toList := by decide
  have hmore : Trailing " and so on".toList := by decide
  have htime : HasFourDigitYear (-62167219200000) := by decide
  have hfields : addressFields.Writable := by decide
  obtain ⟨hwrite, hread⟩ := read_write_read hfirst hcode hmore ⟨1, "b.log"⟩ 8
  have hline : read ⟨0, "a.log"⟩ 7 unevenLine = .ok ⟨951807960250, ⟨0, "a.log"⟩, 7,
      String.ofList unevenLine, .ofList [("a", "b:c"), ("k", ""), ("a", "é")]⟩ := by
    decide +kernel
  exact ⟨hfirst, hcode, hmore, ⟨htime, hfields, hwrite _ _ htime hfields⟩, _, hline, by decide,
    hread _ _ _ _ hline (by decide)⟩

end LogLine

end ReplicaTrace
