/-!
# Keys with values

A list of keys with values, in the order in which the keys were first put into it.

* `Association.put` : a known key keeps its place and takes the new value, a new one goes to the end.
* `Association.map_fst_put` : the keys afterwards.
* `Association.lookup_put` : the values afterwards.
* `Association.put_of_notMem`, `Association.mem_put` : where the entries come from.
* `Association.mem_iff_lookup_eq_some` : entries and values come to the same.
* `Association.get_foldl` : of the values that are put to a key in a row, the last one stays.
-/

namespace ReplicaTrace

namespace Association

variable {κ ν : Type} [BEq κ]

/-- Puts a value to a key. -/
def put (key : κ) (value : ν) : List (κ × ν) → List (κ × ν)
  | [] => [(key, value)]
  | e :: es => if e.1 == key then (key, value) :: es else e :: put key value es

/-- An entry was put there just now or was there before. -/
theorem mem_put {key : κ} {value : ν} {es : List (κ × ν)} {e : κ × ν} (h : e ∈ put key value es) :
    e = (key, value) ∨ e ∈ es := by
  induction es with
  | nil => exact .inl (List.mem_singleton.1 h)
  | cons x xs ih =>
    rw [put] at h
    split at h
    · rcases List.mem_cons.1 h with h | h
      · exact .inl h
      · exact .inr (List.mem_cons_of_mem _ h)
    · rcases List.mem_cons.1 h with rfl | h
      · exact .inr List.mem_cons_self
      · exact (ih h).imp_right (List.mem_cons_of_mem _)

variable [LawfulBEq κ]

theorem map_fst_put (key : κ) (value : ν) (es : List (κ × ν)) :
    (put key value es).map Prod.fst =
      if key ∈ es.map Prod.fst then es.map Prod.fst else es.map Prod.fst ++ [key] := by
  induction es with
  | nil => rfl
  | cons e es ih =>
    by_cases h : e.1 = key
    · simp [put, h]
    · have h' : key ≠ e.1 := fun he => h he.symm
      simp only [put, beq_iff_eq, h, if_false, List.map_cons, ih, List.mem_cons, h', false_or]
      split <;> rfl

/-- A new key goes to the end. -/
theorem put_of_notMem {key : κ} {value : ν} {es : List (κ × ν)} (h : key ∉ es.map Prod.fst) :
    put key value es = es ++ [(key, value)] := by
  induction es with
  | nil => rfl
  | cons e es ih =>
    rw [List.map_cons, List.mem_cons, not_or] at h
    have hne : (e.1 == key) = false := beq_eq_false_iff_ne.2 (Ne.symm h.1)
    simp only [put, hne, Bool.false_eq_true, if_false, ih h.2, List.cons_append]

theorem lookup_put [DecidableEq κ] (key : κ) (value : ν) (es : List (κ × ν)) (k : κ) :
    (put key value es).lookup k = if k = key then some value else es.lookup k := by
  induction es with
  | nil =>
    by_cases h : k = key
    · simp [put, h]
    · simp [put, List.lookup_cons, beq_eq_false_iff_ne.2 h, h]
  | cons e es ih =>
    obtain ⟨a, b⟩ := e
    by_cases ha : a = key
    · subst ha
      by_cases h : k = a
      · simp [put, h]
      · simp [put, List.lookup_cons, beq_eq_false_iff_ne.2 h, h]
    · simp only [put, beq_iff_eq, ha, if_false, List.lookup_cons, ih]
      by_cases h : k = a
      · simp [h, ha]
      · simp [beq_eq_false_iff_ne.2 h]

/-- The entries are told by the values of their keys if no key occurs twice. -/
theorem mem_iff_lookup_eq_some {es : List (κ × ν)} (h : (es.map Prod.fst).Nodup) {key : κ}
    {value : ν} : (key, value) ∈ es ↔ es.lookup key = some value := by
  rw [List.lookup_eq_some_iff]
  constructor
  · intro hmem
    obtain ⟨before, after, rfl⟩ := List.append_of_mem hmem
    refine ⟨before, after, rfl, fun e he => ?_⟩
    rw [List.map_append, List.nodup_append] at h
    rw [bne_iff_ne]
    exact (h.2.2 e.1 (List.mem_map_of_mem he) key (by simp)).symm
  · rintro ⟨before, after, rfl, -⟩
    simp

/-- Where no key occurs twice, the first entry of a key is the last one. -/
theorem lookup_reverse {es : List (κ × ν)} (h : (es.map Prod.fst).Nodup) (key : κ) :
    es.reverse.lookup key = es.lookup key := by
  have h' : (es.reverse.map Prod.fst).Nodup := (es.reverse_perm.map Prod.fst).nodup_iff.2 h
  refine Option.ext fun value => ?_
  rw [← mem_iff_lookup_eq_some h', ← mem_iff_lookup_eq_some h, List.mem_reverse]

/-- **Of the values that are put to a key in a row, the last one stays**, wherever keys are given
values one at a time. -/
theorem get_foldl [DecidableEq κ] {σ : Type} {get : σ → κ → Option ν} {set : σ → κ → ν → σ}
    (h : ∀ s key value k, get (set s key value) k = if k = key then some value else get s k)
    (es : List (κ × ν)) (s : σ) (k : κ) :
    get (es.foldl (fun s e => set s e.1 e.2) s) k = (es.reverse.lookup k).or (get s k) := by
  induction es generalizing s with
  | nil => rfl
  | cons e es ih =>
    obtain ⟨key, value⟩ := e
    rw [List.foldl_cons, ih, h, List.reverse_cons, List.lookup_append, Option.or_assoc]
    congr 1
    by_cases hk : k = key
    · simp [hk]
    · simp [hk, List.lookup_cons, beq_eq_false_iff_ne.2 hk]

end Association

end ReplicaTrace
