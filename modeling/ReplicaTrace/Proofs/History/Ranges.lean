import Mathlib.Data.List.Chain
import Mathlib.Data.List.Range
import ReplicaTrace.History.Digest
import ReplicaTrace.Proofs.Results
import ReplicaTrace.Proofs.Text.Pieces

/-!
# The ranges in a digest

The digest of a log is read back part by part: each part tells a slot and the numbers of the first
and the last record of a range.  The ranges follow one another from the first record of the log to
its last, and each is as long as it can be, so that a digest tells the slots of all records and
nothing else.

* `Span.ofDigest?` : the ranges that a digest tells.
* `Span.Tells` : what they have to say about the slots of a log.
* `Stretch.cells_ofSlots` : the stretches of a log hold each record once and in order.
* `digestLog_tells` : the digest of every log.
-/

namespace ReplicaTrace

open Text

/-- A range of records as a part of a digest tells it. -/
structure Span where
  /-- The slot of the records. -/
  slot : ℕ
  /-- The number of the first record. -/
  first : ℕ
  /-- The number of the last record. -/
  last : ℕ
  /-- The part speaks of one record. -/
  single : Bool
deriving DecidableEq, Repr

namespace Span

/-- The range that a part of a digest tells, after the blank that stands before it. -/
def ofText? (text : String) : Option Span := do
  let (slot, rest) ← numeral? (← after? " slot " text)
  match after? " entry " rest with
  | some number =>
    let n ← number? number
    return ⟨slot, n, n, true⟩
  | none =>
    let (first, rest) ← numeral? (← after? " entries " rest)
    let last ← number? (← after? "-" rest)
    return ⟨slot, first, last, false⟩

/-- The ranges that a digest tells, in order. -/
def ofDigest? (text : String) : Option (List Span) := do
  let inner ← before? "]" (← after? "[" text)
  if inner = "" then return []
  (((" " ++ inner).toList.splitOn ',').map String.ofList).mapM ofText?

/-- **The ranges are a run-length encoding of the slots.** -/
structure Tells (slots : List ℕ) (spans : List Span) : Prop where
  /-- The first range starts with the first record, -/
  start : ∀ s ∈ spans.head?, s.first = 0
  /-- and every other one right after the range before it. -/
  contiguous : spans.IsChain fun s t => t.first = s.last + 1
  /-- No range is empty. -/
  ordered : ∀ s ∈ spans, s.first ≤ s.last
  /-- The numbers in the ranges are those of the records. -/
  covers : ∀ i, i < slots.length ↔ ∃ s ∈ spans, s.first ≤ i ∧ i ≤ s.last
  /-- Every record in a range has the range's slot. -/
  slot : ∀ s ∈ spans, ∀ i, s.first ≤ i → i ≤ s.last → slots[i]? = some s.slot
  /-- Neighbouring ranges have different slots. -/
  distinct : spans.IsChain fun s t => s.slot ≠ t.slot
  /-- A part speaks of one record exactly if its range has one. -/
  single : ∀ s ∈ spans, s.single = true ↔ s.first = s.last

/-- The ranges leave no choice for the slots. -/
theorem Tells.slots_unique {slots slots' : List ℕ} {spans : List Span} (h : Tells slots spans)
    (h' : Tells slots' spans) : slots = slots' := by
  refine List.ext_getElem? fun i => ?_
  by_cases hi : i < slots.length
  · obtain ⟨s, hs, hfirst, hlast⟩ := (h.covers i).1 hi
    rw [h.slot s hs i hfirst hlast, h'.slot s hs i hfirst hlast]
  · have hi' : ¬ i < slots'.length := fun hlt => hi ((h.covers i).2 ((h'.covers i).1 hlt))
    rw [List.getElem?_eq_none (not_lt.1 hi), List.getElem?_eq_none (not_lt.1 hi')]

end Span

namespace Stretch

/-! ### The stretches of a log -/

/-- The slots of the stretch's records, with their numbers. -/
def cells (s : Stretch) : List (ℕ × ℕ) :=
  (List.range' s.first (s.more + 1)).map (s.slot, ·)

theorem mem_cells {s : Stretch} {slot i : ℕ} :
    (slot, i) ∈ s.cells ↔ slot = s.slot ∧ s.first ≤ i ∧ i ≤ s.first + s.more := by
  simp only [cells, List.mem_map, List.mem_range'_1, Prod.mk.injEq]
  constructor
  · rintro ⟨j, ⟨hlow, hhigh⟩, rfl, rfl⟩
    exact ⟨rfl, hlow, by omega⟩
  · rintro ⟨rfl, hlow, hhigh⟩
    exact ⟨i, ⟨hlow, by omega⟩, rfl, rfl⟩

/-- The first stretch starts with the first record. -/
theorem first_of_mem_head? {number : ℕ} {slots : List ℕ} :
    ∀ s ∈ (ofSlots number slots).head?, s.first = number := by
  cases slots with
  | nil => simp [ofSlots]
  | cons slot slots =>
    rw [ofSlots]
    unfold prepend
    split
    · split <;> simp
    · simp

/-- A record in front of stretches is one cell more. -/
theorem cells_prepend {number slot : ℕ} {ss : List Stretch}
    (h : ∀ s ∈ ss.head?, s.first = number + 1) :
    (prepend number slot ss).flatMap cells = (slot, number) :: ss.flatMap cells := by
  cases ss with
  | nil => rfl
  | cons s rest =>
    have hfirst : s.first = number + 1 := h s rfl
    by_cases hslot : s.slot = slot
    · have hcells : cells ⟨slot, number, s.more + 1⟩ = (slot, number) :: s.cells := by
        rw [cells, List.range'_succ, List.map_cons, cells, hfirst, hslot]
      rw [prepend, if_pos hslot, List.flatMap_cons, hcells, List.flatMap_cons, List.cons_append]
    · rw [prepend, if_neg hslot, List.flatMap_cons]
      rfl

/-- **The stretches of a log** hold each record once and in order. -/
theorem cells_ofSlots (number : ℕ) (slots : List ℕ) :
    (ofSlots number slots).flatMap cells = slots.zipIdx number := by
  induction slots generalizing number with
  | nil => rfl
  | cons slot slots ih =>
    rw [ofSlots, cells_prepend first_of_mem_head?, ih, List.zipIdx_cons]

/-- One stretch follows another: it starts right after it and has another slot. -/
def Precedes (s t : Stretch) : Prop :=
  t.first = s.first + s.more + 1 ∧ s.slot ≠ t.slot

theorem isChain_prepend {number slot : ℕ} {ss : List Stretch} (h : ss.IsChain Precedes)
    (hfirst : ∀ s ∈ ss.head?, s.first = number + 1) :
    (prepend number slot ss).IsChain Precedes := by
  cases ss with
  | nil => exact List.IsChain.singleton _
  | cons s rest =>
    have hs : s.first = number + 1 := hfirst s rfl
    obtain ⟨hnext, hrest⟩ := List.isChain_cons.1 h
    by_cases hslot : s.slot = slot
    · rw [prepend, if_pos hslot]
      refine List.isChain_cons.2 ⟨fun t ht => ?_, hrest⟩
      obtain ⟨hstart, hother⟩ := hnext t ht
      -- the longer stretch ends where the old one did
      exact ⟨by dsimp only; omega, hslot ▸ hother⟩
    · rw [prepend, if_neg hslot]
      exact List.isChain_cons_cons.2 ⟨⟨by dsimp only; omega, Ne.symm hslot⟩, h⟩

theorem isChain_ofSlots (number : ℕ) (slots : List ℕ) :
    (ofSlots number slots).IsChain Precedes := by
  induction slots generalizing number with
  | nil => exact List.IsChain.nil
  | cons slot slots ih => exact isChain_prepend (ih (number + 1)) first_of_mem_head?

/-! ### The text of a stretch -/

/-- The range of a stretch. -/
def span (s : Stretch) : Span :=
  ⟨s.slot, s.first, s.first + s.more, s.more == 0⟩

/-- **The ranges of a log's stretches** are a run-length encoding of its slots. -/
theorem tells_ofSlots (slots : List ℕ) : Span.Tells slots ((ofSlots 0 slots).map span) := by
  have hcell : ∀ slot i, slots[i]? = some slot ↔ ∃ s ∈ ofSlots 0 slots, (slot, i) ∈ s.cells := by
    intro slot i
    rw [← List.mem_flatMap, cells_ofSlots, List.mem_zipIdx_iff_getElem?]
  have hchain := isChain_ofSlots 0 slots
  refine ⟨fun s hs => ?_, ?_, fun s hs => ?_, fun i => ?_, fun s hs i hlow hhigh => ?_, ?_,
    fun s hs => ?_⟩
  · rw [List.head?_map, Option.mem_def, Option.map_eq_some_iff] at hs
    obtain ⟨t, ht, rfl⟩ := hs
    exact first_of_mem_head? t ht
  · exact (List.isChain_map span).2 (hchain.imp fun _ _ h => h.1)
  · obtain ⟨t, -, rfl⟩ := List.mem_map.1 hs
    exact Nat.le_add_right ..
  · constructor
    · intro hi
      obtain ⟨t, ht, hmem⟩ := (hcell _ i).1 (List.getElem?_eq_getElem hi)
      exact ⟨t.span, List.mem_map_of_mem ht, (mem_cells.1 hmem).2⟩
    · rintro ⟨s, hs, hlow, hhigh⟩
      obtain ⟨t, ht, rfl⟩ := List.mem_map.1 hs
      have hsome := (hcell t.slot i).2 ⟨t, ht, mem_cells.2 ⟨rfl, hlow, hhigh⟩⟩
      exact (List.getElem?_eq_some_iff.1 hsome).1
  · obtain ⟨t, ht, rfl⟩ := List.mem_map.1 hs
    exact (hcell t.slot i).2 ⟨t, ht, mem_cells.2 ⟨rfl, hlow, hhigh⟩⟩
  · exact (List.isChain_map span).2 (hchain.imp fun _ _ h => h.2)
  · obtain ⟨t, -, rfl⟩ := List.mem_map.1 hs
    simp [span]

/-- A part of a digest is read back. -/
theorem ofText?_text (s : Stretch) : Span.ofText? (" " ++ s.text) = some s.span := by
  obtain ⟨slot, first, more⟩ := s
  cases more with
  | zero =>
    have htext : " " ++ text ⟨slot, first, 0⟩ =
        " slot " ++ (toString slot ++ (" entry " ++ toString first)) := by
      rw [← String.toList_inj]
      simp [text, toString]
    have hstop : StopsAt Char.isDigit (" entry " ++ toString first) :=
      stopsAt_append (by decide) (by decide) _
    simp only [Span.ofText?, htext, after?_append, numeral?_append slot hstop, number?_toString,
      Option.bind_eq_bind, Option.bind_some]
    rfl
  | succ k =>
    have htext : " " ++ text ⟨slot, first, k + 1⟩ = " slot " ++ (toString slot ++ (" entries " ++
        (toString first ++ ("-" ++ toString (first + (k + 1)))))) := by
      rw [← String.toList_inj]
      simp [text, toString]
    have hstop : StopsAt Char.isDigit (" entries " ++
        (toString first ++ ("-" ++ toString (first + (k + 1))))) :=
      stopsAt_append (by decide) (by decide) _
    have hdash : StopsAt Char.isDigit ("-" ++ toString (first + (k + 1))) :=
      stopsAt_append (by decide) (by decide) _
    have hmany : ∀ rest, after? " entry " (" entries " ++ rest) = none := fun rest => by
      simp [after?]
    simp only [Span.ofText?, htext, after?_append, numeral?_append slot hstop, hmany,
      numeral?_append first hdash, number?_toString, Option.bind_eq_bind, Option.bind_some]
    rfl

end Stretch

/-! ### The digest -/

/-- No part of a digest has a comma in it. -/
theorem Stretch.comma_notMem_text (s : Stretch) : ',' ∉ (" " ++ s.text).toList := by
  have hdigits : ∀ n : ℕ, ',' ∉ Nat.toDigits 10 n := fun n h =>
    absurd (Nat.isDigit_of_mem_toDigits (by decide) (by decide) h) (by decide)
  unfold text
  split <;> simp [toString, hdigits]

/-- Parts that are joined by a comma and a blank are joined by the comma alone if the blank counts
as the start of the part after it. -/
theorem blank_append_intercalate {parts : List String} (h : parts ≠ []) :
    (" " ++ ", ".intercalate parts).toList =
      [','].intercalate (parts.map fun part => (" " ++ part).toList) := by
  induction parts with
  | nil => exact absurd rfl h
  | cons part parts ih =>
    cases parts with
    | nil => simp
    | cons next parts =>
      have hrest := ih (List.cons_ne_nil next parts)
      rw [String.intercalate_cons_cons, List.map_cons, List.map_cons, List.intercalate_cons_cons,
        ← List.map_cons (f := fun part => (" " ++ part).toList), ← hrest]
      simp

/-- **A digest is read back** part by part. -/
theorem Span.ofDigest?_digest (ss : List Stretch) :
    ofDigest? ("[" ++ ", ".intercalate (ss.map Stretch.text) ++ "]") =
      some (ss.map Stretch.span) := by
  rw [ofDigest?, String.append_assoc, after?_append]
  simp only [Option.bind_eq_bind, Option.bind_some, before?_append]
  cases ss with
  | nil => rfl
  | cons s ss =>
    have hparts : (s :: ss).map Stretch.text ≠ [] := List.cons_ne_nil _ _
    have hne : ", ".intercalate ((s :: ss).map Stretch.text) ≠ "" := by
      intro hempty
      have hletter : 's' ∈ (" " ++ ", ".intercalate ((s :: ss).map Stretch.text)).toList := by
        rw [blank_append_intercalate hparts]
        refine mem_intercalate_of_mem (List.mem_cons_self ..) ?_
        unfold Stretch.text
        split <;> simp [toString]
      rw [hempty] at hletter
      exact absurd hletter (by decide)
    have hcomma : ∀ piece ∈ ((s :: ss).map Stretch.text).map fun part => (" " ++ part).toList,
        ',' ∉ piece := by
      intro piece hpiece
      rw [List.map_map] at hpiece
      obtain ⟨t, -, rfl⟩ := List.mem_map.1 hpiece
      exact t.comma_notMem_text
    rw [if_neg hne, blank_append_intercalate hparts,
      List.splitOn_intercalate ',' hcomma (by simp), List.map_map, List.map_map]
    exact mapM_eq_some fun t _ => by simpa using t.ofText?_text

/-- **The digest of a log is an exact run-length encoding of its slots.**  Its parts tell ranges
that start with the first record, follow one another and cover the records of the log and no others;
every record has the slot that its range tells, neighbouring ranges have different slots, and a part
speaks of one record exactly if its range has one.  Two logs therefore have the same digest exactly
if their records have the same slots, one after the other. -/
theorem digestLog_tells (log : List Entry) :
    (∃ spans, Span.ofDigest? (digestLog log) = some spans ∧
      Span.Tells (log.map Entry.slot) spans) ∧
    ∀ log', digestLog log = digestLog log' ↔ log.map Entry.slot = log'.map Entry.slot := by
  have hread : ∀ log, Span.ofDigest? (digestLog log) =
      some ((Stretch.ofSlots 0 (log.map Entry.slot)).map Stretch.span) := fun log =>
    Span.ofDigest?_digest _
  refine ⟨⟨_, hread log, Stretch.tells_ofSlots _⟩, fun log' => ⟨fun h => ?_, fun h => ?_⟩⟩
  · have hspans := hread log
    rw [h, hread log', Option.some.injEq] at hspans
    have htells := Stretch.tells_ofSlots (log'.map Entry.slot)
    rw [hspans] at htells
    exact (Stretch.tells_ofSlots _).slots_unique htells
  · rw [digestLog, h, digestLog]

/-- A slot that comes back after another one has a range of its own. -/
example : Span.ofDigest? "[slot 1 entry 0, slot 2 entries 1-3, slot 3 entry 4, slot 2 entry 5]" =
    some [⟨1, 0, 0, true⟩, ⟨2, 1, 3, false⟩, ⟨3, 4, 4, true⟩, ⟨2, 5, 5, true⟩] := by
  decide +kernel

end ReplicaTrace
