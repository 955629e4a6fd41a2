import ReplicaTrace.Proofs.Log.Contents

/-!
# Line endings

Lines may be ended by a line feed or by a carriage return and a line feed, each in its own way, and
are found again whatever they hold: they are counted, and each is read with its number.  The single
exception is a file that holds nothing but a line feed, in which no line is found.

* `IsPlainLine` : the bytes of a line without its ending.
* `linesText` : lines with their endings, one after the other.
* `ReadsAs` : a file is read as the given lines.
* `readsAs_linesText_iff` : the lines are found again, apart from the exception.
* `exists_unread_line` : the exception.
-/

namespace ReplicaTrace

/-- How a line is ended. -/
inductive LineEnding where
  /-- A line feed. -/
  | feed
  /-- A carriage return and a line feed. -/
  | returnAndFeed
deriving DecidableEq, Repr

namespace LineEnding

/-- The bytes of the ending. -/
def bytes : LineEnding → Bytes
  | feed => [lineFeed]
  | returnAndFeed => [carriageReturn, lineFeed]

/-- What stands before the line feed. -/
def beforeFeed : LineEnding → Bytes
  | feed => []
  | returnAndFeed => [carriageReturn]

theorem bytes_eq (e : LineEnding) : e.bytes = e.beforeFeed ++ [lineFeed] := by
  cases e <;> rfl

end LineEnding

/-- The bytes of a line: no line feed stands in them, and no carriage return at their end, which
would belong to the ending. -/
structure IsPlainLine (bs : Bytes) : Prop where
  lineFeed_notMem : lineFeed ∉ bs
  getLast?_ne : bs.getLast? ≠ some carriageReturn

instance (bs : Bytes) : Decidable (IsPlainLine bs) :=
  decidable_of_iff (lineFeed ∉ bs ∧ bs.getLast? ≠ some carriageReturn)
    ⟨fun ⟨h₁, h₂⟩ => ⟨h₁, h₂⟩, fun ⟨h₁, h₂⟩ => ⟨h₁, h₂⟩⟩

/-- The lines with their endings, one after the other. -/
def linesText (lines : List (Bytes × LineEnding)) : Bytes :=
  lines.flatMap fun l => l.1 ++ l.2.bytes

/-- The file is read as these lines: they are what it is split into, all of them are counted, and
the `k`-th of them is read with the number `k`. -/
structure ReadsAs (data : Bytes) (lines : List Bytes) : Prop where
  /-- The file is split into the lines. -/
  split : splitLines data = lines
  /-- All lines are counted. -/
  scanned : ∀ (marker : String) (source : Source),
    (readContents marker source data).tally.scanned = lines.length
  /-- Every line has its number. -/
  numbered : ∀ (marker : String) (source : Source), readContents marker source data =
    .ofReadings (lines.mapIdx fun i bs => readLine marker source (i + 1) bs)

variable {lines : List (Bytes × LineEnding)} {bs : Bytes}

/-- What a file is split into decides how it is read. -/
theorem readsAs_splitLines (data : Bytes) : ReadsAs data (splitLines data) where
  split := rfl
  scanned marker source := by simp [readContents, scanned_ofReadings, readAllLines]
  numbered marker source := by simp [readContents, readAllLines]

theorem readsAs_iff {data : Bytes} {lines : List Bytes} :
    ReadsAs data lines ↔ splitLines data = lines := by
  refine ⟨ReadsAs.split, ?_⟩
  rintro rfl
  exact readsAs_splitLines data

/-! ### Endings -/

/-- Dropping a carriage return takes off what the ending has left. -/
theorem IsPlainLine.dropFinal_append (h : IsPlainLine bs) (e : LineEnding) :
    dropFinal carriageReturn (bs ++ e.beforeFeed) = bs := by
  cases e with
  | feed => rw [LineEnding.beforeFeed, List.append_nil, dropFinal_of_getLast?_ne h.getLast?_ne]
  | returnAndFeed => exact dropFinal_concat carriageReturn bs

theorem IsPlainLine.lineFeed_notMem_append (h : IsPlainLine bs) (e : LineEnding) :
    lineFeed ∉ bs ++ e.beforeFeed := by
  rw [List.mem_append, not_or]
  exact ⟨h.lineFeed_notMem, by cases e <;> decide⟩

/-- The lines as they stand before the line feeds. -/
def fedLines (lines : List (Bytes × LineEnding)) : List Bytes :=
  lines.map fun l => l.1 ++ l.2.beforeFeed

theorem linesText_eq (lines : List (Bytes × LineEnding)) :
    linesText lines = (fedLines lines).flatMap (· ++ [lineFeed]) := by
  rw [fedLines, List.flatMap_map]
  exact List.flatMap_congr fun l _ => by rw [LineEnding.bytes_eq, List.append_assoc]

theorem lineFeed_notMem_of_mem_fedLines (h : ∀ l ∈ lines, IsPlainLine l.1) :
    ∀ bs ∈ fedLines lines, lineFeed ∉ bs := by
  intro bs hbs
  obtain ⟨l, hl, rfl⟩ := List.mem_map.1 hbs
  exact (h l hl).lineFeed_notMem_append l.2

theorem map_dropFinal_fedLines (h : ∀ l ∈ lines, IsPlainLine l.1) :
    (fedLines lines).map (dropFinal carriageReturn) = lines.map Prod.fst := by
  rw [fedLines, List.map_map]
  exact List.map_congr_left fun l hl => (h l hl).dropFinal_append l.2

/-- The exception: an empty line that a line feed ends. -/
theorem fedLines_eq_iff : fedLines lines = [[]] ↔ lines = [([], .feed)] := by
  constructor
  · intro h
    obtain ⟨⟨bs, e⟩, rfl, hl⟩ := List.map_eq_singleton_iff.1 h
    obtain ⟨rfl, he⟩ := List.append_eq_nil_iff.1 hl
    cases e with
    | feed => rfl
    | returnAndFeed => cases he
  · rintro rfl
    rfl

/-- **Lines are found again whatever their endings are**, unless there is a single empty one that a
line feed ends.  If the last line has something in it, its ending may be missing. -/
theorem readsAs_linesText_iff (h : ∀ l ∈ lines, IsPlainLine l.1) :
    (ReadsAs (linesText lines) (lines.map Prod.fst) ↔ lines ≠ [([], .feed)]) ∧
      ∀ last, IsPlainLine last → last ≠ [] →
        ReadsAs (linesText lines ++ last) (lines.map Prod.fst ++ [last]) := by
  have hfree := lineFeed_notMem_of_mem_fedLines h
  refine ⟨⟨?_, fun hne => ?_⟩, fun last hlast hne => ?_⟩
  · rintro hreads rfl
    exact absurd hreads.split (by decide)
  · have hfed : fedLines lines ≠ [[]] := fun hfed => hne (fedLines_eq_iff.1 hfed)
    rw [readsAs_iff, linesText_eq, splitLines_flatMap hfree hfed, map_dropFinal_fedLines h]
  · have hdrop : dropFinal carriageReturn last = last := dropFinal_of_getLast?_ne hlast.getLast?_ne
    rw [readsAs_iff, linesText_eq, splitLines_flatMap_append hfree hlast.lineFeed_notMem hne,
      List.map_append, map_dropFinal_fedLines h, List.map_singleton, hdrop]

/-- Lines with both endings: empty ones, one with a carriage return inside, and one that is no
text. -/
def mixedEndings : List (Bytes × LineEnding) :=
  [([], .feed), ([0x61, carriageReturn, 0x62], .returnAndFeed), ([], .returnAndFeed),
    ([0xE2, 0x82], .feed)]

theorem readsAs_linesText_mixedEndings :
    (∀ l ∈ mixedEndings, IsPlainLine l.1) ∧ IsPlainLine [0x63] ∧
      ReadsAs [lineFeed, 0x61, carriageReturn, 0x62, carriageReturn, lineFeed, carriageReturn,
        lineFeed, 0xE2, 0x82, lineFeed] [[], [0x61, carriageReturn, 0x62], [], [0xE2, 0x82]] ∧
      ReadsAs (linesText mixedEndings ++ [0x63]) (mixedEndings.map Prod.fst ++ [[0x63]]) := by
  have h : ∀ l ∈ mixedEndings, IsPlainLine l.1 := by decide
  have hlast : IsPlainLine [0x63] := by decide
  obtain ⟨hiff, hopen⟩ := readsAs_linesText_iff h
  exact ⟨h, hlast, hiff.2 (by decide), hopen [0x63] hlast (by decide)⟩

/-- A line that is not found: a file of an empty line, ended by a line feed, has none. -/
theorem exists_unread_line :
    ∃ lines : List (Bytes × LineEnding), (∀ l ∈ lines, IsPlainLine l.1) ∧
      splitLines (linesText lines) ≠ lines.map Prod.fst ∧
      (readContents "[TEST]" ⟨0, "s.log"⟩ (linesText lines)).tally.scanned ≠ lines.length :=
  ⟨[([], .feed)], by decide, by decide, by decide⟩

end ReplicaTrace
