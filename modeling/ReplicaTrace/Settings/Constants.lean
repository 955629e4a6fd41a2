import ReplicaTrace.Text.Order

/-!
# Constants of the model

The constants that the model configuration assigns, by name.  They are kept in the order of their
names, each name once:

* `insert` : assigns a value to a name, in place of the value that the name may have had.
* `get?_insert` : the name then has that value, and every other name the value that it had.
-/

namespace ReplicaTrace

open Text

/-- One name comes before another. -/
def nameBefore (a b : String) : Prop :=
  compareText a.toList b.toList = .lt

/-- Names with values, in the order of the names. -/
structure Constants where
  /-- The names with their values. -/
  entries : List (String × String)
  /-- Each name comes before all later ones. -/
  sorted : entries.Pairwise fun a b => nameBefore a.1 b.1

namespace Constants

@[ext] theorem ext {a b : Constants} (h : a.entries = b.entries) : a = b := by
  cases a
  cases b
  simpa using h

instance : DecidableEq Constants := fun a b =>
  decidable_of_iff (a.entries = b.entries) ⟨ext, fun h => h ▸ rfl⟩

/-- No constants. -/
def empty : Constants := ⟨[], .nil⟩

/-- Assigns a value to a name in a list of names with values. -/
def assign (name value : String) : List (String × String) → List (String × String)
  | [] => [(name, value)]
  | e :: es =>
    match compareText name.toList e.1.toList with
    | .lt => (name, value) :: e :: es
    | .eq => (name, value) :: es
    | .gt => e :: assign name value es

theorem mem_assign {name value : String} {es : List (String × String)} {e : String × String}
    (h : e ∈ assign name value es) : e = (name, value) ∨ e ∈ es := by
  induction es with
  | nil => simpa [assign] using h
  | cons a es ih =>
    rw [assign] at h
    split at h
    · simpa using h
    · rcases List.mem_cons.1 h with h | h
      · exact .inl h
      · exact .inr (List.mem_cons_of_mem _ h)
    · rcases List.mem_cons.1 h with h | h
      · exact .inr (h ▸ List.mem_cons_self ..)
      · exact (ih h).imp_right (List.mem_cons_of_mem _)

theorem pairwise_assign {name value : String} {es : List (String × String)}
    (hs : es.Pairwise fun a b => nameBefore a.1 b.1) :
    (assign name value es).Pairwise fun a b => nameBefore a.1 b.1 := by
  induction es with
  | nil => simp [assign]
  | cons e es ih =>
    rw [List.pairwise_cons] at hs
    rw [assign]
    split
    · next h =>
      refine List.pairwise_cons.2 ⟨?_, List.pairwise_cons.2 hs⟩
      intro b hb
      rcases List.mem_cons.1 hb with rfl | hb
      · exact h
      · exact compareText_trans h (hs.1 b hb)
    · next h =>
      have he : name = e.1 := String.toList_inj.1 (compareText_eq_iff.1 h)
      exact List.pairwise_cons.2 ⟨fun b hb => he ▸ hs.1 b hb, hs.2⟩
    · next h =>
      refine List.pairwise_cons.2 ⟨?_, ih hs.2⟩
      intro b hb
      rcases mem_assign hb with rfl | hb
      · have := compareText_swap name.toList e.1.toList
        rw [h] at this
        exact this.symm
      · exact hs.1 b hb

/-- Assigns a value to a name. -/
def insert (c : Constants) (name value : String) : Constants :=
  ⟨assign name value c.entries, pairwise_assign c.sorted⟩

/-- The constants that remain when the pairs are assigned one after the other. -/
def ofList (pairs : List (String × String)) : Constants :=
  pairs.foldl (fun c p => c.insert p.1 p.2) empty

/-- The names, in order. -/
def names (c : Constants) : List String :=
  c.entries.map Prod.fst

/-- The value of a name. -/
def get? (c : Constants) (name : String) : Option String :=
  c.entries.lookup name

private theorem lookup_assign (name value : String) (es : List (String × String)) (k : String) :
    (assign name value es).lookup k = if k = name then some value else es.lookup k := by
  induction es with
  | nil =>
    by_cases h : k = name
    · simp [assign, h]
    · simp [assign, List.lookup_cons, beq_eq_false_iff_ne.2 h, h]
  | cons e es ih =>
    obtain ⟨a, b⟩ := e
    rw [assign]
    split
    · by_cases h : k = name
      · simp [h]
      · simp [List.lookup_cons, beq_eq_false_iff_ne.2 h, h]
    · next he =>
      have he : name = a := String.toList_inj.1 (compareText_eq_iff.1 he)
      subst he
      by_cases h : k = name
      · simp [h]
      · simp [List.lookup_cons, beq_eq_false_iff_ne.2 h, h]
    · next he =>
      have he : name ≠ a := by
        rintro rfl
        rw [compareText_self] at he
        cases he
      simp only [List.lookup_cons, ih]
      by_cases h : k = a
      · simp [h, Ne.symm he]
      · simp [beq_eq_false_iff_ne.2 h]

theorem get?_insert (c : Constants) (name value k : String) :
    (c.insert name value).get? k = if k = name then some value else c.get? k :=
  lookup_assign name value c.entries k

end Constants

end ReplicaTrace
