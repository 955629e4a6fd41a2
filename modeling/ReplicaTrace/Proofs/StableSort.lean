import Mathlib.Data.List.Sort

/-!
# Stable sorting and merging

What merging and stable sorting do with elements that the order does not tell apart, for any order
`le` on any type.  The elements carry a second relation `R`, which holds from each element of the
input to the later ones; for a list whose elements are labelled with their places it is the order
of the places.

* `StableLE` : first by `le`, then by `R`.
* `pairwise_mergeSort_stable` : sorting orders a list in this way.
* `pairwise_mergeSort_of_mem` : sorting by what is an order on the list only.
* `mergeAll` : several lists merged two at a time.
* `mergeAll_eq_cons` : the merged list starts with the first of the least heads.
* `filter_mergeAll` : elements that stand in one of the lists keep their order.
* `mergeAll_map_mergeSort` : lists that are sorted apart and merged are sorted together.
* `mergeSort_eq_insertionSort_of_total` : sorting by insertion.
-/

namespace ReplicaTrace

variable {α : Type} {le : α → α → Bool} {R : α → α → Prop}

/-- By `le`, and for elements that `le` does not tell apart by `R`. -/
def StableLE (le : α → α → Bool) (R : α → α → Prop) (a b : α) : Prop :=
  le a b = true ∧ (le b a = true → R a b)

/-! ### Sorting -/

/-- **Sorting is stable.**  Elements that `le` does not tell apart stay in the order in which
they stood. -/
theorem pairwise_mergeSort_stable (trans : ∀ a b c, le a b = true → le b c = true → le a c = true)
    (total : ∀ a b, (le a b || le b a) = true) {l : List α} (h : l.Pairwise R) :
    (l.mergeSort le).Pairwise (StableLE le R) := by
  induction l with
  | nil => simp
  | cons a l ih =>
    obtain ⟨ha, hl⟩ := List.pairwise_cons.1 h
    obtain ⟨l₁, l₂, heq, hrest, hlt⟩ := List.mergeSort_cons trans total a l
    -- sorting `a :: l` puts `a` into the sorted `l`, after smaller elements only
    have hmem : ∀ b ∈ l₂, b ∈ l := fun b hb =>
      (List.mergeSort_perm l le).mem_iff.1 (hrest ▸ List.mem_append_right l₁ hb)
    have hsorted := List.pairwise_mergeSort trans total (a :: l)
    rw [heq, List.pairwise_append] at hsorted
    have ih := ih hl
    rw [hrest, List.pairwise_append] at ih
    rw [heq, List.pairwise_append]
    refine ⟨ih.1, List.pairwise_cons.2 ⟨fun b hb => ?_, ih.2.1⟩, fun x hx y hy => ?_⟩
    · exact ⟨(List.pairwise_cons.1 hsorted.2.1).1 b hb, fun _ => ha b (hmem b hb)⟩
    · rcases List.mem_cons.1 hy with rfl | hy
      · have hn : le y x = false := by simpa using hlt x hx
        exact ⟨hsorted.2.2 x hx y List.mem_cons_self, fun hyx => by simp [hn] at hyx⟩
      · exact ih.2.2 x hx y hy

/-- Sorting needs an order on the elements of the list only. -/
theorem pairwise_mergeSort_of_mem {l : List α}
    (trans : ∀ a ∈ l, ∀ b ∈ l, ∀ c ∈ l, le a b = true → le b c = true → le a c = true)
    (total : ∀ a ∈ l, ∀ b ∈ l, (le a b || le b a) = true) :
    (l.mergeSort le).Pairwise fun a b => le a b = true := by
  -- the elements with their membership are ordered as a type
  let le' : { a // a ∈ l } → { a // a ∈ l } → Bool := fun a b => le a.1 b.1
  have hsorted : (l.attach.mergeSort le').Pairwise fun a b => le' a b = true := by
    refine List.pairwise_mergeSort ?_ ?_ _
    · exact fun a b c => trans a.1 a.2 b.1 b.2 c.1 c.2
    · exact fun a b => total a.1 a.2 b.1 b.2
  have hmap : (l.attach.mergeSort le').map Subtype.val = l.mergeSort le := by
    rw [List.map_mergeSort (s := le) fun _ _ _ _ => rfl, List.attach_map_subtype_val]
  rw [← hmap, List.pairwise_map]
  exact hsorted

/-! ### Merging several lists -/

/-- The lists merged, the later ones first. -/
def mergeAll (le : α → α → Bool) (ls : List (List α)) : List α :=
  ls.foldr (fun l merged => l.merge merged le) []

@[simp] theorem mergeAll_nil : mergeAll le [] = [] := rfl

@[simp] theorem mergeAll_cons (l : List α) (ls : List (List α)) :
    mergeAll le (l :: ls) = l.merge (mergeAll le ls) le := rfl

/-- What comes first in the merged list comes first in one of the lists. -/
theorem exists_head_of_mergeAll {ls : List (List α)} {a : α} {l : List α}
    (h : mergeAll le ls = a :: l) : ∃ (i : ℕ) (t : List α), ls[i]? = some (a :: t) := by
  induction ls generalizing l with
  | nil => simp at h
  | cons s ls ih =>
    rw [mergeAll_cons] at h
    cases s with
    | nil =>
      rw [List.nil_merge] at h
      obtain ⟨i, t, hi⟩ := ih h
      exact ⟨i + 1, t, by simpa using hi⟩
    | cons x xs =>
      cases hm : mergeAll le ls with
      | nil =>
        rw [hm, List.merge_right] at h
        obtain ⟨rfl, rfl⟩ := List.cons.inj h
        exact ⟨0, xs, rfl⟩
      | cons y ys =>
        rw [hm, List.cons_merge_cons] at h
        split at h
        · obtain ⟨rfl, -⟩ := List.cons.inj h
          exact ⟨0, xs, rfl⟩
        · obtain ⟨rfl, -⟩ := List.cons.inj h
          obtain ⟨i, t, hi⟩ := ih hm
          exact ⟨i + 1, t, by simpa using hi⟩

/-- The head of the `i`-th list is below the heads of earlier lists and not above those of later
ones: it comes first of all. -/
theorem mergeAll_eq_cons {ls : List (List α)} {i : ℕ} {a : α} {s : List α}
    (hi : ls[i]? = some (a :: s))
    (hmin : ∀ j b t, ls[j]? = some (b :: t) →
      (j < i → le b a = false) ∧ (i < j → le a b = true)) :
    mergeAll le ls = a :: mergeAll le (ls.set i s) := by
  induction ls generalizing i with
  | nil => simp at hi
  | cons x ls ih =>
    cases i with
    | zero =>
      obtain rfl : x = a :: s := by simpa using hi
      rw [List.set_cons_zero, mergeAll_cons, mergeAll_cons]
      cases hm : mergeAll le ls with
      | nil => simp
      | cons b t =>
        -- the rivals of the head of this list are the heads of the later ones
        obtain ⟨j, t', hj⟩ := exists_head_of_mergeAll hm
        have hab := (hmin (j + 1) b t' (by simpa using hj)).2 (by omega)
        exact List.cons_merge_cons_pos le s t hab
    | succ i =>
      have hrest := ih (by simpa using hi) fun j b t hj =>
        ⟨fun hlt => (hmin (j + 1) b t (by simpa using hj)).1 (by omega),
          fun hlt => (hmin (j + 1) b t (by simpa using hj)).2 (by omega)⟩
      rw [List.set_cons_succ, mergeAll_cons, mergeAll_cons, hrest]
      cases x with
      | nil => simp
      | cons b t =>
        have hba := (hmin 0 b t rfl).1 (by omega)
        exact List.cons_merge_cons_neg le t _ (by simp [hba])

theorem mergeAll_eq_nil {ls : List (List α)} (h : ∀ l ∈ ls, l = []) : mergeAll le ls = [] := by
  induction ls with
  | nil => rfl
  | cons l ls ih =>
    rw [mergeAll_cons, h l List.mem_cons_self, List.nil_merge]
    exact ih fun l hl => h l (List.mem_cons_of_mem _ hl)

theorem mergeAll_perm (ls : List (List α)) : (mergeAll le ls).Perm ls.flatten := by
  induction ls with
  | nil => exact .refl _
  | cons l ls ih => exact (List.merge_perm_append le).trans (ih.append_left l)

/-- Merging with a list of other elements leaves the elements that `p` picks out as they are. -/
theorem filter_merge_left {p : α → Bool} {l₁ l₂ : List α} (h : ∀ b ∈ l₂, p b = false) :
    (l₁.merge l₂ le).filter p = l₁.filter p := by
  induction l₁ generalizing l₂ with
  | nil => simpa using h
  | cons a l₁ ih₁ =>
    induction l₂ with
    | nil => simp
    | cons b l₂ ih₂ =>
      have hb : p b = false := h b List.mem_cons_self
      have hl₂ : ∀ b ∈ l₂, p b = false := fun b hb => h b (List.mem_cons_of_mem _ hb)
      rw [List.cons_merge_cons]
      split
      · rw [List.filter_cons, List.filter_cons, ih₁ h]
      · rw [List.filter_cons_of_neg (by simp [hb]), ih₂ hl₂]

theorem filter_merge_right {p : α → Bool} {l₁ l₂ : List α} (h : ∀ a ∈ l₁, p a = false) :
    (l₁.merge l₂ le).filter p = l₂.filter p := by
  induction l₁ generalizing l₂ with
  | nil => simp
  | cons a l₁ ih₁ =>
    have ha : p a = false := h a List.mem_cons_self
    have hl₁ : ∀ a ∈ l₁, p a = false := fun a ha => h a (List.mem_cons_of_mem _ ha)
    induction l₂ with
    | nil => simpa using h
    | cons b l₂ ih₂ =>
      rw [List.cons_merge_cons]
      split
      · rw [List.filter_cons_of_neg (by simp [ha]), ih₁ hl₁]
      · rw [List.filter_cons, List.filter_cons, ih₂]

/-- If all elements that `p` picks out stand in one of the lists, they keep their order. -/
theorem filter_mergeAll {p : α → Bool} {ls : List (List α)}
    (h : ls.Pairwise fun l l' => ∀ a ∈ l, ∀ b ∈ l', p a = true → p b = false) :
    (mergeAll le ls).filter p = ls.flatten.filter p := by
  induction ls with
  | nil => rfl
  | cons l ls ih =>
    obtain ⟨hl, hls⟩ := List.pairwise_cons.1 h
    rw [mergeAll_cons, List.flatten_cons, List.filter_append, ← ih hls]
    by_cases hnone : ∀ a ∈ l, p a = false
    · have hnil : l.filter p = [] := List.filter_eq_nil_iff.2 fun a ha => by simp [hnone a ha]
      rw [filter_merge_right hnone, hnil, List.nil_append]
    · -- the elements stand in this list, so that the later ones have none
      obtain ⟨a, ha, hpa⟩ : ∃ a ∈ l, p a = true := by simpa using hnone
      have hrest : ∀ b ∈ mergeAll le ls, p b = false := fun b hb => by
        obtain ⟨l', hl', hb⟩ := List.mem_flatten.1 ((mergeAll_perm ls).mem_iff.1 hb)
        exact hl l' hl' a ha b hb hpa
      have hnil : (mergeAll le ls).filter p = [] :=
        List.filter_eq_nil_iff.2 fun b hb => by simp [hrest b hb]
      rw [filter_merge_left hrest, hnil, List.append_nil]

/-- Merging looks at the elements through the order only. -/
theorem map_mergeAll {β : Type} {le' : β → β → Bool} (f : β → α)
    (hf : ∀ a b, le' a b = le (f a) (f b)) (ls : List (List β)) :
    (mergeAll le' ls).map f = mergeAll le (ls.map (List.map f)) := by
  induction ls with
  | nil => rfl
  | cons l ls ih =>
    rw [mergeAll_cons, List.map_cons, mergeAll_cons, ← ih]
    exact List.map_merge fun a _ b _ => hf a b

/-- Two lists in order are merged in order, when `R` holds from the first list to the second. -/
theorem pairwise_merge_stable
    (trans : ∀ a b c, le a b = true → le b c = true → le a c = true)
    (total : ∀ a b, (le a b || le b a) = true) {l₁ l₂ : List α}
    (h₁ : l₁.Pairwise (StableLE le R)) (h₂ : l₂.Pairwise (StableLE le R))
    (h : ∀ a ∈ l₁, ∀ b ∈ l₂, R a b) : (l₁.merge l₂ le).Pairwise (StableLE le R) := by
  induction l₁ generalizing l₂ with
  | nil => simpa using h₂
  | cons a l₁ ih₁ =>
    induction l₂ with
    | nil => simpa using h₁
    | cons b l₂ ih₂ =>
      obtain ⟨ha, hl₁⟩ := List.pairwise_cons.1 h₁
      obtain ⟨hb, hl₂⟩ := List.pairwise_cons.1 h₂
      rw [List.cons_merge_cons]
      split
      · next hab =>
        refine List.pairwise_cons.2 ⟨fun c hc => ?_, ih₁ hl₁ h₂ fun x hx =>
          h x (List.mem_cons_of_mem _ hx)⟩
        rcases List.mem_merge.1 hc with hc | hc
        · exact ha c hc
        · refine ⟨?_, fun _ => h a List.mem_cons_self c hc⟩
          rcases List.mem_cons.1 hc with rfl | hc
          · exact hab
          · exact trans _ _ _ hab (hb c hc).1
      · next hab =>
        have hba : le b a = true := by simpa [hab] using total a b
        refine List.pairwise_cons.2 ⟨fun c hc => ?_, ih₂ hl₂ fun x hx y hy =>
          h x hx y (List.mem_cons_of_mem _ hy)⟩
        rcases List.mem_merge.1 hc with hc | hc
        · rcases List.mem_cons.1 hc with rfl | hc
          · exact ⟨hba, fun hcb => absurd hcb hab⟩
          · exact ⟨trans _ _ _ hba (ha c hc).1, fun hcb => absurd (trans _ _ _ (ha c hc).1 hcb) hab⟩
        · exact hb c hc

/-- Sorting two lists together is sorting them apart and merging them. -/
theorem mergeSort_append (trans : ∀ a b c, le a b = true → le b c = true → le a c = true)
    (total : ∀ a b, (le a b || le b a) = true) (s t : List α) :
    (s ++ t).mergeSort le = (s.mergeSort le).merge (t.mergeSort le) le := by
  -- elements that `le` does not tell apart are told apart by their places
  let le' : α × ℕ → α × ℕ → Bool := fun a b => le a.1 b.1
  let R : α × ℕ → α × ℕ → Prop := fun a b => a.2 < b.2
  let s' := s.zipIdx
  let t' := t.zipIdx s.length
  have htrans : ∀ a b c, le' a b = true → le' b c = true → le' a c = true :=
    fun a b c => trans a.1 b.1 c.1
  have htotal : ∀ a b, (le' a b || le' b a) = true := fun a b => total a.1 b.1
  have hst : (s' ++ t').Pairwise R := by
    have h := List.pairwise_lt_range' (s := 0) (n := (s ++ t).length)
    rw [← List.zipIdx_map_snd, List.pairwise_map, List.zipIdx_append, Nat.zero_add] at h
    exact h
  obtain ⟨hs, ht, hcross⟩ := List.pairwise_append.1 hst
  have key : (s' ++ t').mergeSort le' = (s'.mergeSort le').merge (t'.mergeSort le') le' := by
    refine List.Perm.eq_of_pairwise
      (fun a b _ _ (hab : StableLE le' R a b) (hba : StableLE le' R b a) => ?_)
      (pairwise_mergeSort_stable htrans htotal hst)
      (pairwise_merge_stable htrans htotal (pairwise_mergeSort_stable htrans htotal hs)
        (pairwise_mergeSort_stable htrans htotal ht) fun a ha b hb => ?_) ?_
    · exact absurd (hab.2 hba.1) (Nat.lt_asymm (hba.2 hab.1))
    · exact hcross a (List.mem_mergeSort.1 ha) b (List.mem_mergeSort.1 hb)
    · exact (List.mergeSort_perm _ _).trans (((List.mergeSort_perm s' le').append
        (List.mergeSort_perm t' le')).symm.trans (List.merge_perm_append le').symm)
  have hmap : ∀ l : List (α × ℕ), (l.mergeSort le').map Prod.fst = (l.map Prod.fst).mergeSort le :=
    fun l => List.map_mergeSort fun _ _ _ _ => rfl
  have := congrArg (List.map Prod.fst) key
  rwa [List.map_merge (s := le) fun _ _ _ _ => rfl, hmap, hmap, hmap, List.map_append,
    List.zipIdx_map_fst, List.zipIdx_map_fst] at this

/-- **Merging sorted lists is sorting them together.** -/
theorem mergeAll_map_mergeSort
    (trans : ∀ a b c, le a b = true → le b c = true → le a c = true)
    (total : ∀ a b, (le a b || le b a) = true) (ls : List (List α)) :
    mergeAll le (ls.map fun l => l.mergeSort le) = ls.flatten.mergeSort le := by
  induction ls with
  | nil => simp
  | cons l ls ih =>
    rw [List.map_cons, mergeAll_cons, ih, List.flatten_cons, mergeSort_append trans total]

theorem merge_singleton_left (a : α) (l : List α) :
    [a].merge l le = l.orderedInsert (fun x y => le x y = true) a := by
  induction l with
  | nil => simp
  | cons b l ih =>
    rw [List.cons_merge_cons, List.orderedInsert_cons]
    split
    · rw [List.nil_merge]
    · rw [ih]

/-- Sorting is inserting one element after the other, which can be computed. -/
theorem mergeSort_eq_insertionSort_of_total
    (trans : ∀ a b c, le a b = true → le b c = true → le a c = true)
    (total : ∀ a b, (le a b || le b a) = true) (l : List α) :
    l.mergeSort le = l.insertionSort fun x y => le x y = true := by
  induction l with
  | nil => simp
  | cons a l ih =>
    rw [← List.singleton_append, mergeSort_append trans total, ih, List.mergeSort_singleton,
      merge_singleton_left, List.singleton_append, List.insertionSort_cons]

end ReplicaTrace
