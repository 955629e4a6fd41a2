import ReplicaTrace.Proofs.Text.Numbers
import ReplicaTrace.Server.Id

/-!
# How far the natural order is an order

Two segments of ids are compared by their values if both are numbers, and as texts otherwise.  The
two ways need not agree: `9` comes before `10`, `10` comes before `1a`, and yet `1a` comes before
`9`.  What goes wrong there is the only thing that can go wrong.  A segment `t` that is no number is
*interlaced* with two numbers if it stands between them as a text while their values do not have the
order of their texts; on a class of segments without interlaced ones, the natural order is a
preorder, and on no other.

* `Interlaced` : a text between two numbers of the other order.
* `compareSegment_isLE_trans` : three segments.
* `compareSegments_isLE_trans` : lists of segments, from the segments in them.
* `naturalCompare_preorder_iff` : the classes of segments on which ids are ordered.
* `exists_naturalCompare_circle` : three ids that are not.
-/

namespace ReplicaTrace

open Text

/-! ### Two segments -/

/-- The number that a segment is. -/
def segmentNumber? (s : List Char) : Option ℕ :=
  (readNat max64 s).toOption

/-- The text `t`, which is no number, stands before `x` and after `y` as a text, but the number `x`
does not come after the number `y`. -/
structure Interlaced (x t y : List Char) : Prop where
  /-- Two numbers, in this order or equal. -/
  numbers : ∃ m n, segmentNumber? x = some m ∧ segmentNumber? y = some n ∧ m ≤ n
  /-- The segment between them is no number. -/
  notNumber : segmentNumber? t = none
  /-- It is one segment. -/
  noPoint : '.' ∉ t
  /-- As texts the segments stand the other way round. -/
  texts : compareText y t = .lt ∧ compareText t x = .lt

variable {a b c x y t : List Char}

theorem compareSegment_eq (a b : List Char) :
    compareSegment a b =
      match segmentNumber? a, segmentNumber? b with
      | some m, some n => compare m n
      | _, _ => compareText a b := by
  unfold compareSegment segmentNumber?
  cases readNat max64 a <;> cases readNat max64 b <;> rfl

theorem compareSegment_numbers {m n : ℕ} (ha : segmentNumber? a = some m)
    (hb : segmentNumber? b = some n) : compareSegment a b = compare m n := by
  rw [compareSegment_eq, ha, hb]

theorem compareSegment_left (ha : segmentNumber? a = none) :
    compareSegment a b = compareText a b := by
  rw [compareSegment_eq, ha]

theorem compareSegment_right (hb : segmentNumber? b = none) :
    compareSegment a b = compareText a b := by
  rw [compareSegment_eq, hb]
  cases segmentNumber? a <;> rfl

theorem compareSegment_self (a : List Char) : compareSegment a a = .eq := by
  rw [compareSegment_eq]
  cases segmentNumber? a with
  | none => exact compareText_self a
  | some n => exact Nat.compare_eq_eq.2 rfl

theorem compareText_isLE_trans (hab : (compareText a b).isLE) (hbc : (compareText b c).isLE) :
    (compareText a c).isLE := by
  rw [Ordering.isLE_iff_eq_lt_or_eq_eq] at hab hbc ⊢
  rcases hab with hab | hab
  · rcases hbc with hbc | hbc
    · exact .inl (compareText_trans hab hbc)
    · obtain rfl := compareText_eq_iff.1 hbc
      exact .inl hab
  · obtain rfl := compareText_eq_iff.1 hab
    exact hbc

/-- A number and a segment that is none are different texts. -/
theorem compareText_eq_lt_of_isLE (h : (compareText a b).isLE)
    (hne : segmentNumber? a ≠ segmentNumber? b) : compareText a b = .lt := by
  rcases Ordering.isLE_iff_eq_lt_or_eq_eq.1 h with hlt | heq
  · exact hlt
  · obtain rfl := compareText_eq_iff.1 heq
    exact absurd rfl hne

theorem compareText_eq_gt_iff : compareText a b = .gt ↔ compareText b a = .lt := by
  rw [← compareText_swap b a]
  cases compareText b a <;> decide

/-- **Three segments** are in order, unless one of them is interlaced with the others. -/
theorem compareSegment_isLE_trans (hpoint : '.' ∉ a ∧ '.' ∉ b ∧ '.' ∉ c)
    (hab : (compareSegment a b).isLE) (hbc : (compareSegment b c).isLE)
    (h₁ : ¬ Interlaced a c b) (h₂ : ¬ Interlaced c b a) (h₃ : ¬ Interlaced b a c) :
    (compareSegment a c).isLE := by
  obtain ⟨ha, hb, hc⟩ := hpoint
  by_contra hac
  rw [Ordering.isLE_iff_ne_gt, not_not] at hac
  -- two numbers and a text are compared in both ways, all else is compared in one way
  cases hna : segmentNumber? a with
  | some k =>
    cases hnb : segmentNumber? b with
    | some m =>
      rw [compareSegment_numbers hna hnb, Nat.isLE_compare] at hab
      cases hnc : segmentNumber? c with
      | some n =>
        rw [compareSegment_numbers hnb hnc, Nat.isLE_compare] at hbc
        rw [compareSegment_numbers hna hnc, Nat.compare_eq_gt] at hac
        omega
      | none =>
        rw [compareSegment_right hnc] at hbc hac
        refine h₁ ⟨⟨k, m, hna, hnb, hab⟩, hnc, hc, ?_, compareText_eq_gt_iff.1 hac⟩
        exact compareText_eq_lt_of_isLE hbc (by simp [hnb, hnc])
    | none =>
      rw [compareSegment_right hnb] at hab
      rw [compareSegment_left hnb] at hbc
      cases hnc : segmentNumber? c with
      | some n =>
        rw [compareSegment_numbers hna hnc, Nat.compare_eq_gt] at hac
        refine h₂ ⟨⟨n, k, hnc, hna, by omega⟩, hnb, hb, ?_, ?_⟩
        · exact compareText_eq_lt_of_isLE hab (by simp [hna, hnb])
        · exact compareText_eq_lt_of_isLE hbc (by simp [hnb, hnc])
      | none =>
        rw [compareSegment_right hnc] at hac
        exact Ordering.isLE_iff_ne_gt.1 (compareText_isLE_trans hab hbc) hac
  | none =>
    rw [compareSegment_left hna] at hab hac
    cases hnb : segmentNumber? b with
    | some m =>
      cases hnc : segmentNumber? c with
      | some n =>
        rw [compareSegment_numbers hnb hnc, Nat.isLE_compare] at hbc
        refine h₃ ⟨⟨m, n, hnb, hnc, hbc⟩, hna, ha, compareText_eq_gt_iff.1 hac, ?_⟩
        exact compareText_eq_lt_of_isLE hab (by simp [hna, hnb])
      | none =>
        rw [compareSegment_right hnc] at hbc
        exact Ordering.isLE_iff_ne_gt.1 (compareText_isLE_trans hab hbc) hac
    | none =>
      rw [compareSegment_left hnb] at hbc
      exact Ordering.isLE_iff_ne_gt.1 (compareText_isLE_trans hab hbc) hac

/-- A segment that is interlaced with two numbers makes a circle with them. -/
theorem Interlaced.circle (h : Interlaced x t y) :
    (compareSegment x y).isLE ∧ compareSegment y t = .lt ∧ compareSegment x t = .gt := by
  obtain ⟨⟨m, n, hx, hy, hmn⟩, ht, -, hyt, htx⟩ := h
  refine ⟨?_, ?_, ?_⟩
  · rw [compareSegment_numbers hx hy]
    exact Nat.isLE_compare.2 hmn
  · rw [compareSegment_right ht]
    exact hyt
  · rw [compareSegment_right ht]
    exact compareText_eq_gt_iff.2 htx

/-! ### Lists of segments -/

theorem compareSegments_self (as : List (List Char)) : compareSegments as as = .eq := by
  induction as with
  | nil => rfl
  | cons a as ih => rw [compareSegments, compareSegment_self, ih]; rfl

/-- On the class `P` of segments the comparison is transitive. -/
def SegmentsOrdered (P : List Char → Prop) : Prop :=
  ∀ a b c, P a → P b → P c → (compareSegment a b).isLE → (compareSegment b c).isLE →
    (compareSegment a c).isLE

theorem compareSegment_isLE_of_eq (h : compareSegment a b = .eq) : (compareSegment b a).isLE := by
  rw [← compareSegment_swap a b, h]
  rfl

/-- Two segments that come neither way round are compared as equal. -/
theorem compareSegment_eq_of_isLE (hab : (compareSegment a b).isLE)
    (hba : (compareSegment b a).isLE) : compareSegment a b = .eq := by
  rw [← compareSegment_swap a b] at hba
  generalize compareSegment a b = o at hab hba ⊢
  cases o
  · cases hba
  · rfl
  · cases hab

/-- **Lists of segments** are in order if the segments in them are. -/
theorem compareSegments_isLE_trans {P : List Char → Prop} (hP : SegmentsOrdered P)
    {as bs cs : List (List Char)} (has : ∀ s ∈ as, P s) (hbs : ∀ s ∈ bs, P s)
    (hcs : ∀ s ∈ cs, P s) (hab : (compareSegments as bs).isLE)
    (hbc : (compareSegments bs cs).isLE) : (compareSegments as cs).isLE := by
  induction as generalizing bs cs with
  | nil => cases cs <;> rfl
  | cons a as ih =>
    cases bs with
    | nil => cases hab
    | cons b bs =>
      cases cs with
      | nil => cases hbc
      | cons c cs =>
        obtain ⟨ha, has⟩ := List.forall_mem_cons.1 has
        obtain ⟨hb, hbs⟩ := List.forall_mem_cons.1 hbs
        obtain ⟨hc, hcs⟩ := List.forall_mem_cons.1 hcs
        rw [compareSegments] at hab hbc ⊢
        have hfirst : (compareSegment a b).isLE := by
          rcases Ordering.isLE_then_iff_or.1 hab with h | ⟨h, -⟩ <;> rw [h] <;> rfl
        have hsecond : (compareSegment b c).isLE := by
          rcases Ordering.isLE_then_iff_or.1 hbc with h | ⟨h, -⟩ <;> rw [h] <;> rfl
        have hlast := hP a b c ha hb hc hfirst hsecond
        rw [Ordering.isLE_then_iff_or]
        rcases Ordering.isLE_iff_eq_lt_or_eq_eq.1 hlast with hlt | heq
        · exact .inl hlt
        · -- the first segments are all equal, so the others decide
          have hca := compareSegment_isLE_of_eq heq
          have hfirst := compareSegment_eq_of_isLE hfirst (hP b c a hb hc ha hsecond hca)
          have hsecond :=
            compareSegment_eq_of_isLE hsecond (hP c a b hc ha hb hca (by rw [hfirst]; rfl))
          rw [hfirst] at hab
          rw [hsecond] at hbc
          exact .inr ⟨heq, ih has hbs hcs hab hbc⟩

/-- Lists of segments that are compared as equal are equal, if segments are. -/
theorem eq_of_compareSegments_eq {P : List Char → Prop}
    (hP : ∀ a b, P a → P b → compareSegment a b = .eq → a = b) {as bs : List (List Char)}
    (has : ∀ s ∈ as, P s) (hbs : ∀ s ∈ bs, P s) (h : compareSegments as bs = .eq) : as = bs := by
  induction as generalizing bs with
  | nil =>
    cases bs with
    | nil => rfl
    | cons b bs => cases h
  | cons a as ih =>
    cases bs with
    | nil => cases h
    | cons b bs =>
      obtain ⟨ha, has⟩ := List.forall_mem_cons.1 has
      obtain ⟨hb, hbs⟩ := List.forall_mem_cons.1 hbs
      obtain ⟨hfirst, hrest⟩ := Ordering.then_eq_eq.1 h
      rw [hP a b ha hb hfirst, ih has hbs hrest]

/-! ### Ids -/

/-- Without interlaced segments a class is in order, as far as its segments have no point. -/
theorem segmentsOrdered_of_not_interlaced {P : List Char → Prop}
    (hP : ∀ x t y, P x → P t → P y → ¬ Interlaced x t y) :
    SegmentsOrdered fun s => P s ∧ '.' ∉ s := by
  intro a b c ha hb hc hab hbc
  refine compareSegment_isLE_trans ⟨ha.2, hb.2, hc.2⟩ hab hbc ?_ ?_ ?_
  · exact hP a c b ha.1 hc.1 hb.1
  · exact hP c b a hc.1 hb.1 ha.1
  · exact hP b a c hb.1 ha.1 hc.1

theorem point_notMem_of_segmentNumber? {n : ℕ} (h : segmentNumber? a = some n) : '.' ∉ a := by
  obtain ⟨ds, hds, hnumeral, -⟩ := readNat_eq_ok_iff.1 (toOption_eq_some_iff.1 h)
  have hdigits : '.' ∉ ds := by
    intro hmem
    exact absurd (hnumeral.2.1 '.' hmem) (by decide)
  rcases hds with rfl | rfl
  · exact hdigits
  · intro hmem
    rcases List.mem_cons.1 hmem with h | h
    · exact absurd h (by decide)
    · exact hdigits h

namespace ServerId

/-- All segments of the id are of the class `P`. -/
def MadeOf (P : List Char → Prop) (id : ServerId) : Prop :=
  ∀ s ∈ id.segments, P s

variable {P : List Char → Prop} {i j k : ServerId}

theorem point_notMem_of_mem_segments {s : List Char} (h : s ∈ i.segments) : '.' ∉ s := by
  intro hpoint
  rw [segments, List.splitOn_eq_splitOnP] at h
  exact absurd (notMem_of_mem_splitOnP h '.' hpoint) (by decide)

theorem segments_ofList (h : '.' ∉ a) : (⟨String.ofList a⟩ : ServerId).segments = [a] := by
  rw [segments, String.toList_ofList]
  exact List.splitOn_eq_singleton h

theorem madeOf_ofList (h : '.' ∉ a) (ha : P a) : MadeOf P ⟨String.ofList a⟩ := by
  intro s hs
  rw [segments_ofList h, List.mem_singleton] at hs
  exact hs ▸ ha

/-- Ids of one segment are compared as their segments are. -/
theorem naturalCompare_ofList (ha : '.' ∉ a) (hb : '.' ∉ b) :
    naturalCompare ⟨String.ofList a⟩ ⟨String.ofList b⟩ = compareSegment a b := by
  rw [naturalCompare, segments_ofList ha, segments_ofList hb]
  simp only [compareSegments]
  cases compareSegment a b <;> rfl

/-- **Ids** made of segments that are in order are in order. -/
theorem naturalCompare_isLE_trans (hP : ∀ x t y, P x → P t → P y → ¬ Interlaced x t y)
    (hi : i.MadeOf P) (hj : j.MadeOf P) (hk : k.MadeOf P) (hij : (naturalCompare i j).isLE)
    (hjk : (naturalCompare j k).isLE) : (naturalCompare i k).isLE := by
  refine compareSegments_isLE_trans (segmentsOrdered_of_not_interlaced hP) ?_ ?_ ?_ hij hjk
  · exact fun s hs => ⟨hi s hs, point_notMem_of_mem_segments hs⟩
  · exact fun s hs => ⟨hj s hs, point_notMem_of_mem_segments hs⟩
  · exact fun s hs => ⟨hk s hs, point_notMem_of_mem_segments hs⟩

/-- **How far the natural order is an order.**  Every id is equal to itself in it, and comparing two
ids the other way round turns the answer round.  It is transitive on the ids made of segments of a
class exactly if no segment of the class is interlaced with two others. -/
theorem naturalCompare_preorder_iff (P : List Char → Prop) :
    (∀ i : ServerId, naturalCompare i i = .eq) ∧
    (∀ i j : ServerId, naturalCompare j i = (naturalCompare i j).swap) ∧
    ((∀ i j k : ServerId, i.MadeOf P → j.MadeOf P → k.MadeOf P →
        naturalCompare i j ≠ .gt → naturalCompare j k ≠ .gt → naturalCompare i k ≠ .gt) ↔
      ∀ x t y, P x → P t → P y → ¬ Interlaced x t y) := by
  refine ⟨fun i => compareSegments_self _, fun i j => (compareSegments_swap _ _).symm, ?_, ?_⟩
  · intro htrans x t y hx ht hy h
    obtain ⟨hxy, hyt, hxt⟩ := h.circle
    obtain ⟨⟨m, n, hm, hn, -⟩, -, hpoint, -⟩ := h
    have hpx := point_notMem_of_segmentNumber? hm
    have hpy := point_notMem_of_segmentNumber? hn
    refine htrans _ _ _ (madeOf_ofList hpx hx) (madeOf_ofList hpy hy) (madeOf_ofList hpoint ht)
      ?_ ?_ ?_
    · rw [naturalCompare_ofList hpx hpy]
      exact Ordering.isLE_iff_ne_gt.1 hxy
    · rw [naturalCompare_ofList hpy hpoint, hyt]
      exact Ordering.noConfusion
    · rw [naturalCompare_ofList hpx hpoint, hxt]
  · intro hP i j k hi hj hk hij hjk
    have hij := Ordering.ne_gt_iff_isLE.1 hij
    have hjk := Ordering.ne_gt_iff_isLE.1 hjk
    exact Ordering.isLE_iff_ne_gt.1 (naturalCompare_isLE_trans hP hi hj hk hij hjk)

/-- `9` comes before `10` as a number, and `10` before `1a`, but `9` not before `1a` as a text. -/
theorem exists_naturalCompare_circle :
    naturalCompare ⟨"9"⟩ ⟨"10"⟩ = .lt ∧ naturalCompare ⟨"10"⟩ ⟨"1a"⟩ = .lt ∧
      naturalCompare ⟨"9"⟩ ⟨"1a"⟩ = .gt ∧
      ¬ ∀ i j k : ServerId, naturalCompare i j ≠ .gt → naturalCompare j k ≠ .gt →
        naturalCompare i k ≠ .gt := by
  have hnumbers : naturalCompare ⟨"9"⟩ ⟨"10"⟩ = .lt := by decide
  have htexts : naturalCompare ⟨"10"⟩ ⟨"1a"⟩ = .lt := by decide
  have hmixed : naturalCompare ⟨"9"⟩ ⟨"1a"⟩ = .gt := by decide
  refine ⟨hnumbers, htexts, hmixed, ?_⟩
  intro htrans
  exact htrans ⟨"9"⟩ ⟨"10"⟩ ⟨"1a"⟩ (by simp [hnumbers]) (by simp [htexts]) hmixed

end ServerId

end ReplicaTrace
