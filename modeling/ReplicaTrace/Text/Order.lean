/-!
# The order of texts

Texts are ordered by the code points of their characters, from the left; a text that ends first
comes first.  `compareText` is this order, and it is a linear one: `compareText_eq_iff`,
`compareText_swap` and `compareText_trans`.
-/

namespace ReplicaTrace

namespace Text

/-- Compares texts by their code points. -/
def compareText : List Char → List Char → Ordering
  | [], [] => .eq
  | [], _ :: _ => .lt
  | _ :: _, [] => .gt
  | a :: as, b :: bs => (compare a.toNat b.toNat).then (compareText as bs)

theorem compareText_swap (a b : List Char) : (compareText a b).swap = compareText b a := by
  induction a generalizing b with
  | nil => cases b <;> rfl
  | cons x xs ih =>
    cases b with
    | nil => rfl
    | cons y ys => simp [compareText, Ordering.swap_then, ih, Nat.compare_swap]

theorem compareText_self (a : List Char) : compareText a a = .eq := by
  induction a with
  | nil => rfl
  | cons x xs ih => simp [compareText, ih]

theorem compareText_eq_iff {a b : List Char} : compareText a b = .eq ↔ a = b := by
  induction a generalizing b with
  | nil => cases b <;> simp [compareText]
  | cons x xs ih =>
    cases b with
    | nil => simp [compareText]
    | cons y ys =>
      simp only [compareText, Ordering.then_eq_eq, Nat.compare_eq_eq, ih, List.cons.injEq,
        and_congr_left_iff]
      exact fun _ => ⟨fun h => Char.ext (UInt32.toNat_inj.1 h), fun h => h ▸ rfl⟩

/-- The order is transitive. -/
theorem compareText_trans {a b c : List Char} (h₁ : compareText a b = .lt)
    (h₂ : compareText b c = .lt) : compareText a c = .lt := by
  induction a generalizing b c with
  | nil =>
    cases c with
    | nil => cases b <;> simp [compareText] at h₁ h₂
    | cons z zs => rfl
  | cons x xs ih =>
    cases b with
    | nil => simp [compareText] at h₁
    | cons y ys =>
      cases c with
      | nil => simp [compareText] at h₂
      | cons z zs =>
        simp only [compareText, Ordering.then_eq_lt, Nat.compare_eq_lt, Nat.compare_eq_eq] at *
        rcases h₁ with h₁ | ⟨h₁, h₁'⟩ <;> rcases h₂ with h₂ | ⟨h₂, h₂'⟩
        · exact .inl (by omega)
        · exact .inl (by omega)
        · exact .inl (by omega)
        · exact .inr ⟨by omega, ih h₁' h₂'⟩

end Text

end ReplicaTrace
