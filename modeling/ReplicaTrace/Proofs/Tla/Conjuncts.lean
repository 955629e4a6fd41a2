import ReplicaTrace.Proofs.Tla.Reading
import ReplicaTrace.Tla.TraceModule

/-!
# What the written conjuncts say

A conjunct that the trace module writes for a variable is read back with the index and the value
that it was written for, and no conjunct written for one variable is read as one for another.

* `update?_assignment`, `update?_of_ne` : the assignments of the steps.
* `constant?_replicate`, `constant?_of_ne` : the functions at the start.
* `last?_named` : among other conjuncts, the one for a variable is found.
-/

namespace ReplicaTrace

namespace Tla

open Text

variable {x y : String}

/-- What starts with one identifier does not start with another. -/
theorem after?_of_ne (hx : isIdentifier x = true) (hy : isIdentifier y = true) (hne : y ≠ x)
    {p q : String} (hp : ∀ r, StopsAt isIdentifierRest (p ++ r)) (hq : StopsAt isIdentifierRest q) :
    after? (x ++ p) (y ++ q) = none := by
  refine Option.eq_none_iff_forall_ne_some.2 fun r hr => hne ?_
  have happend : y ++ q = x ++ (p ++ r) := by
    rw [after?_eq_some_iff.1 hr, String.append_assoc]
  exact (append_inj_of_stopsAt (isIdentifierRest_of_mem hy) (isIdentifierRest_of_mem hx) hq (hp r)
    happend).1

/-! ### Assignments of the steps -/

theorem assignment_eq (server : ℕ) (x : String) (v : Value) :
    TraceModule.assignment server x v =
      x ++ ("' = [" ++ (x ++ (" EXCEPT ![" ++
        (toString server ++ ("] = " ++ (v.render ++ "]")))))) := by
  simp only [TraceModule.assignment, toString, String.append_assoc]

@[simp] theorem update?_assignment (server : ℕ) (x : String) (v : Value) :
    update? x (TraceModule.assignment server x v) = some (server, v.render) := by
  have hstop : StopsAt Char.isDigit ("] = " ++ (v.render ++ "]")) :=
    stopsAt_append (by decide) (by decide) _
  have hline : TraceModule.assignment server x v =
      x ++ "' = [" ++ x ++ " EXCEPT ![" ++ (toString server ++ ("] = " ++ (v.render ++ "]"))) := by
    simp only [assignment_eq, String.append_assoc]
  rw [hline, update?, after?_append]
  simp only [Option.bind_eq_bind, Option.bind_some, numeral?_append server hstop, after?_append,
    before?_append]
  rfl

/-- What starts with another identifier assigns nothing to the variable. -/
theorem update?_of_ne (hx : isIdentifier x = true) (hy : isIdentifier y = true) (hne : y ≠ x)
    {q : String} (hq : StopsAt isIdentifierRest q) : update? x (y ++ q) = none := by
  have hp : ∀ r, StopsAt isIdentifierRest ("' = [" ++ x ++ " EXCEPT ![" ++ r) := fun r => by
    rw [String.append_assoc, String.append_assoc]
    exact stopsAt_append (by decide) (by decide) _
  have hnone := after?_of_ne hx hy hne hp hq
  simp only [← String.append_assoc] at hnone
  rw [update?, hnone]
  rfl

/-! ### Functions at the start -/

theorem render_replicate (n : ℕ) (v : Value) :
    (Value.function (List.replicate (n + 1) v)).render =
      "[i \\in 0.." ++ (toString n ++ (" |-> " ++ (v.render ++ "]"))) := by
  have hsame : (List.replicate n v).all (Value.same v) = true := by
    simp [Value.same_iff]
  rw [List.replicate_succ, Value.render, if_pos hsame, List.length_replicate]
  simp only [Value.renderFunction, toString, String.append_assoc]

theorem constant?_replicate (x : String) (n : ℕ) {v : Value}
    (hv : before? "[i + 1]" v.render = none) :
    constant? x (x ++ " = " ++ (Value.function (List.replicate (n + 1) v)).render) =
      some (List.replicate (n + 1) v.render) := by
  have hstop : StopsAt Char.isDigit (" |-> " ++ (v.render ++ "]")) :=
    stopsAt_append (by decide) (by decide) _
  rw [constant?, after?_append, render_replicate]
  simp only [Option.bind_eq_bind, Option.bind_some, numeral?_append n hstop, after?_append,
    before?_append, hv]
  rfl

/-- What starts with another identifier is no function for the variable. -/
theorem constant?_of_ne (hx : isIdentifier x = true) (hy : isIdentifier y = true) (hne : y ≠ x)
    {q : String} (hq : StopsAt isIdentifierRest q) : constant? x (y ++ q) = none := by
  have hp : ∀ r, StopsAt isIdentifierRest (" = " ++ r) := fun r =>
    stopsAt_append (by decide) (by decide) _
  rw [constant?, after?_of_ne hx hy hne hp hq]
  rfl

/-! ### The number of steps taken -/

@[simp] theorem equal?_eq (x : String) (n : ℕ) : equal? x (x ++ " = " ++ toString n) = some n := by
  rw [equal?, after?_append, Option.bind_eq_bind, Option.bind_some, number?_toString]

@[simp] theorem next?_eq (x : String) (n : ℕ) : next? x (x ++ "' = " ++ toString n) = some n := by
  rw [next?, after?_append, Option.bind_eq_bind, Option.bind_some, number?_toString]

/-! ### Among other conjuncts -/

/-- Of the conjuncts written for named values, with others above and below, the last that reads as
one for a variable is the one for its value. -/
theorem findSome?_reverse_named {α : Type} {read : String → Option α}
    (write : String × Value → String) {above below : List String} {named : List (String × Value)}
    {v : Value} {a : α}
    (hv : (x, v) ∈ named) (hnames : (named.map Prod.fst).Nodup)
    (hread : read (write (x, v)) = some a) (hother : ∀ p ∈ named, p.1 ≠ x → read (write p) = none)
    (hbelow : ∀ c ∈ below, read c = none) :
    (above ++ named.map write ++ below).reverse.findSome? read = some a := by
  obtain ⟨front, back, rfl⟩ := List.append_of_mem hv
  -- nothing below the conjunct reads as one for `x`; what is above it does not matter
  have hback : ∀ c ∈ back.map write ++ below, read c = none := by
    intro c hc
    rcases List.mem_append.1 hc with hc | hc
    · obtain ⟨p, hp, rfl⟩ := List.mem_map.1 hc
      refine hother p (by simp [hp]) ?_
      rintro rfl
      have hx : p.1 ∉ back.map Prod.fst := by
        rw [List.map_append, List.map_cons] at hnames
        exact (List.nodup_cons.1 (List.nodup_append.1 hnames).2.1).1
      exact hx (List.mem_map_of_mem hp)
    · exact hbelow c hc
  have hsplit : above ++ (front ++ (x, v) :: back).map write ++ below =
      (above ++ front.map write) ++ write (x, v) :: (back.map write ++ below) := by
    simp
  rw [hsplit, List.reverse_append, List.reverse_cons, List.findSome?_append, List.findSome?_append,
    List.findSome?_eq_none_iff.2 fun c hc => hback c (List.mem_reverse.1 hc)]
  simp [hread]

end Tla

end ReplicaTrace
