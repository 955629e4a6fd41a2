import ReplicaTrace.Proofs.Log.Relevance

/-!
# Lines that were written

Lines that were written one after the other, each ended by a line feed, are found again, except
that a carriage return at the end of a line is dropped and that a single empty line counts as none.
A line that is not relevant is not relevant without its carriage return either.

* `splitLines_flatMap`, `splitLines_flatMap_append` : lines that were written, the last one ended or
  not.
* `scanned_ofReadings` : every line counts.
* `not_isRelevant_dropFinal` : lines without their last carriage return.
-/

namespace ReplicaTrace

variable {b : UInt8} {bs : Bytes} {lines : List Bytes}

theorem dropFinal_concat (b : UInt8) (bs : Bytes) : dropFinal b (bs ++ [b]) = bs := by
  simp [dropFinal]

theorem dropFinal_of_getLast?_ne (h : bs.getLast? ≠ some b) : dropFinal b bs = bs :=
  if_neg h

/-- Lines that are ended by line feeds are separated by them, but for the last. -/
theorem flatMap_concat_eq_intercalate (b : UInt8) (hne : lines ≠ []) :
    lines.flatMap (· ++ [b]) = [b].intercalate lines ++ [b] := by
  induction lines with
  | nil => exact absurd rfl hne
  | cons l ls ih =>
    cases ls with
    | nil => simp
    | cons l' ls =>
      rw [List.flatMap_cons, ih (List.cons_ne_nil _ _), List.intercalate_cons_cons]
      simp

theorem intercalate_eq_nil_iff (hne : lines ≠ []) : [b].intercalate lines = [] ↔ lines = [[]] := by
  cases lines with
  | nil => exact absurd rfl hne
  | cons l ls =>
    cases ls with
    | nil => simp
    | cons l' ls => simp [List.intercalate_cons_cons]

/-- **Lines that were written** are found again, without a carriage return at their end. -/
theorem splitLines_flatMap (hfree : ∀ l ∈ lines, lineFeed ∉ l) (hne : lines ≠ [[]]) :
    splitLines (lines.flatMap (· ++ [lineFeed])) = lines.map (dropFinal carriageReturn) := by
  by_cases hnil : lines = []
  · rw [hnil]
    rfl
  · rw [flatMap_concat_eq_intercalate lineFeed hnil, splitLines, dropFinal_concat]
    split
    · next h => exact absurd ((intercalate_eq_nil_iff hnil).1 h) hne
    · rw [List.splitOn_intercalate lineFeed hfree hnil]

/-- The last line need not be ended if there is something in it. -/
theorem splitLines_flatMap_append {last : Bytes} (hfree : ∀ l ∈ lines, lineFeed ∉ l)
    (hlast : lineFeed ∉ last) (hne : last ≠ []) :
    splitLines (lines.flatMap (· ++ [lineFeed]) ++ last) =
      (lines ++ [last]).map (dropFinal carriageReturn) := by
  have hdata : lines.flatMap (· ++ [lineFeed]) ++ last =
      [lineFeed].intercalate (lines ++ [last]) := by
    have h := flatMap_concat_eq_intercalate lineFeed (List.append_ne_nil_of_right_ne_nil lines
      (List.cons_ne_nil last []))
    rw [List.flatMap_append, List.flatMap_singleton, ← List.append_assoc] at h
    exact List.append_cancel_right h
  -- no line feed stands at the end that could be dropped
  have hend : (lines.flatMap (· ++ [lineFeed]) ++ last).getLast? ≠ some lineFeed := by
    rw [List.getLast?_append_of_ne_nil _ hne]
    exact fun h => hlast (List.mem_of_getLast? h)
  rw [splitLines, dropFinal_of_getLast?_ne hend]
  split
  · next h => exact absurd (List.append_eq_nil_iff.1 h).2 hne
  · rw [hdata, List.splitOn_intercalate lineFeed _ (by simp)]
    simpa [or_imp, forall_and] using ⟨hfree, hlast⟩

/-- Every reading counts one line. -/
theorem scanned_ofReadings (readings : List Reading) :
    (Contents.ofReadings readings).tally.scanned = readings.length := by
  induction readings with
  | nil => rfl
  | cons r rs ih =>
    have hr : r.tally.scanned = 1 := by
      cases r with
      | irrelevant isText => rfl
      | line l => rfl
      | fault e => cases e <;> rfl
    have hrs : (Tally.sum (rs.map Reading.tally)).scanned = rs.length := ih
    change (Tally.sum (r.tally :: rs.map Reading.tally)).scanned = rs.length + 1
    rw [Tally.sum_cons, ← hrs, ← hr, Nat.add_comm]
    rfl

/-- A line that is not relevant is not relevant without its last carriage return. -/
theorem not_isRelevant_dropFinal {marker : String} (h : ¬ IsRelevant marker bs) :
    ¬ IsRelevant marker (dropFinal carriageReturn bs) := by
  unfold dropFinal
  split
  · next hlast =>
    intro hrel
    refine h ?_
    obtain ⟨front, rfl⟩ := List.getLast?_eq_some_iff.1 hlast
    rw [List.dropLast_concat] at hrel
    unfold IsRelevant at hrel ⊢
    rw [Utf8.lossy_append_cons front (by decide)]
    exact hrel.trans (List.infix_append' [] _ _)
  · exact h

end ReplicaTrace
