import Mathlib.Data.List.Forall2

/-!
# Computations that succeed

A computation that may fail gives a result exactly if each of its steps does.  A pass over a list that
fails does so at the first item that is at fault, which is told by the items before it
(`exists_cons_eq_append_cons`).
-/

namespace ReplicaTrace

variable {ε ε' α β : Type}

theorem except_bind_eq_ok_iff {x : Except ε α} {f : α → Except ε β} {b : β} :
    x >>= f = .ok b ↔ ∃ a, x = .ok a ∧ f a = .ok b := by
  constructor
  · intro h
    cases x with
    | error e => cases h
    | ok a => exact ⟨a, rfl, h⟩
  · rintro ⟨a, rfl, h⟩
    exact h

theorem except_bind_eq_error_iff {x : Except ε α} {f : α → Except ε β} {e : ε} :
    x >>= f = .error e ↔ x = .error e ∨ ∃ a, x = .ok a ∧ f a = .error e := by
  cases x with
  | error e' => simp [bind, Except.bind]
  | ok a => simp [bind, Except.bind]

theorem except_map_eq_ok_iff {f : α → β} {x : Except ε α} {b : β} :
    x.map f = .ok b ↔ ∃ a, x = .ok a ∧ f a = b := by
  cases x <;> simp [Except.map]

theorem mapError_eq_ok_iff {f : ε → ε'} {x : Except ε α} {a : α} :
    x.mapError f = .ok a ↔ x = .ok a := by
  cases x <;> simp [Except.mapError]

theorem mapError_eq_error_iff {f : ε → ε'} {x : Except ε α} {e' : ε'} :
    x.mapError f = .error e' ↔ ∃ e, x = .error e ∧ f e = e' := by
  cases x <;> simp [Except.mapError]

theorem toOption_eq_some_iff {x : Except ε α} {a : α} : x.toOption = some a ↔ x = .ok a := by
  cases x <;> simp [Except.toOption]

/-- All results are there exactly if each of them is. -/
theorem mapM_eq_ok_iff {f : α → Except ε β} {as : List α} {bs : List β} :
    as.mapM f = .ok bs ↔ List.Forall₂ (fun a b => f a = .ok b) as bs := by
  induction as generalizing bs with
  | nil => cases bs <;> simp [pure, Except.pure]
  | cons a as ih =>
    rw [List.mapM_cons]
    cases hfirst : f a with
    | error e => cases bs <;> simp [bind, Except.bind, hfirst]
    | ok b =>
      cases hrest : as.mapM f <;> cases bs <;>
        simp [bind, Except.bind, pure, Except.pure, ← ih, hrest, hfirst]

/-- If results are missing, one of the computations has failed in this way. -/
theorem exists_of_mapM_eq_error {f : α → Except ε β} {as : List α} {e : ε}
    (h : as.mapM f = .error e) : ∃ a ∈ as, f a = .error e := by
  induction as with
  | nil => cases h
  | cons a as ih =>
    rw [List.mapM_cons] at h
    rcases except_bind_eq_error_iff.1 h with hfirst | ⟨b, -, h⟩
    · exact ⟨a, List.mem_cons_self, hfirst⟩
    · rcases except_bind_eq_error_iff.1 h with hrest | ⟨bs, -, hdone⟩
      · obtain ⟨x, hx, hfault⟩ := ih hrest
        exact ⟨x, List.mem_cons_of_mem a hx, hfault⟩
      · cases hdone

/-- Results none of which is a failure. -/
theorem exists_eq_map_ok {xs : List (Except ε α)} (h : ∀ e, .error e ∉ xs) :
    ∃ as : List α, xs = as.map .ok := by
  induction xs with
  | nil => exact ⟨[], rfl⟩
  | cons x xs ih =>
    obtain ⟨as, rfl⟩ := ih fun e he => h e (List.mem_cons_of_mem x he)
    cases x with
    | error e => exact absurd List.mem_cons_self (h e)
    | ok a => exact ⟨a :: as, rfl⟩

/-- All results are there if each of them is. -/
theorem mapM_eq_some {γ : Type} {f : γ → Option β} {text : α → γ} {g : α → β} {as : List α}
    (h : ∀ a ∈ as, f (text a) = some (g a)) : (as.map text).mapM f = some (as.map g) := by
  induction as with
  | nil => rfl
  | cons a as ih =>
    rw [List.map_cons, List.mapM_cons, h a List.mem_cons_self,
      ih fun x hx => h x (List.mem_cons_of_mem a hx)]
    rfl

/-- What is said of an item and the items before it is said of the first item or of a later one. -/
theorem exists_cons_eq_append_cons {x : α} {xs : List α} {p : List α → α → Prop} :
    (∃ before a after, x :: xs = before ++ a :: after ∧ p before a) ↔
      p [] x ∨ ∃ before a after, xs = before ++ a :: after ∧ p (x :: before) a := by
  constructor
  · rintro ⟨before, a, after, heq, hp⟩
    cases before with
    | nil =>
      obtain ⟨rfl, -⟩ := List.cons.inj heq
      exact .inl hp
    | cons y before =>
      obtain ⟨rfl, rfl⟩ := List.cons.inj heq
      exact .inr ⟨before, a, after, rfl, hp⟩
  · rintro (hp | ⟨before, a, after, rfl, hp⟩)
    · exact ⟨[], x, xs, rfl, hp⟩
    · exact ⟨x :: before, a, after, rfl, hp⟩

/-! ### Programs over a state -/

section

variable {σ : Type} {w w₁ : σ} {x : ExceptT ε (StateM σ) α} {f : α → ExceptT ε (StateM σ) β}

/-- After a first step that succeeds the program goes on from there. -/
theorem run_bind_of_eq_ok {a : α} (h : x.run.run w = (.ok a, w₁)) :
    (x >>= f).run.run w = (f a).run.run w₁ := by
  rw [ExceptT.run_bind, StateT.run_bind, h]
  rfl

/-- With a first step that fails the program fails. -/
theorem run_bind_of_eq_error {e : ε} (h : x.run.run w = (.error e, w₁)) :
    (x >>= f).run.run w = (.error e, w₁) := by
  rw [ExceptT.run_bind, StateT.run_bind, h]
  rfl

end

end ReplicaTrace
