import ReplicaTrace.Proofs.Settings.Rules
import ReplicaTrace.Proofs.Text.Pieces

/-!
# Reading a trace module

The text of a trace module is read back here, without looking at what it was written from.  Lines
that start a definition, `Name == ...`, are told from other lines, the indented lines below them
belong to them, and conjuncts are read for what they say about one variable:

* `x = [i \in 0..m |-> v]` : the function `x` has the value `v` at `0`, ..., `m`;
* `x' = [x EXCEPT ![i] = v]` : the function `x` gets the value `v` at `i` and keeps the others.

`valuesAfter` follows a variable through the steps that a module defines, starting from its initial
predicate.
-/

namespace ReplicaTrace

namespace Tla

open Text

/-! ### Definitions -/

/-- A definition: the name, what stands on its line after the sign, and the lines below. -/
structure Definition where
  /-- The name. -/
  name : String
  /-- What stands on the first line after the sign. -/
  first : String
  /-- The indented lines below. -/
  body : List String
deriving DecidableEq

/-- Words at the start of a line that are no names. -/
def keywords : List String := ["EXTENDS", "VARIABLE"]

/-- The name that a line starts to define, and what stands after the sign. -/
def definitionHead? (line : String) : Option (String × String) :=
  let (name, rest) := leading isIdentifierRest line
  if isIdentifier name = true ∧ name ∉ keywords then (after? " ==" rest).map fun r => (name, r)
  else none

/-- The line starts with a blank. -/
def isIndented (line : String) : Bool :=
  line.toList.head? == some ' '

/-- The definitions of a module, in their order. -/
def definitions : List String → List Definition
  | [] => []
  | line :: lines =>
    match definitionHead? line with
    | some (name, first) => ⟨name, first, lines.takeWhile isIndented⟩ :: definitions lines
    | none => definitions lines

/-- The definition of a name. -/
def definition? (defs : List Definition) (name : String) : Option Definition :=
  defs.find? (·.name = name)

/-- The conjuncts of a definition, one on each line. -/
def Definition.conjuncts (d : Definition) : List String :=
  d.body.filterMap (after? "    /\\ ")

/-- What the last conjunct that can be read says. -/
def Definition.last? {α : Type} (d : Definition) (read : String → Option α) : Option α :=
  d.conjuncts.reverse.findSome? read

/-! ### Conjuncts -/

/-- The number in `x = n`. -/
def equal? (x c : String) : Option ℕ := do
  number? (← after? (x ++ " = ") c)

/-- The number in `x' = n`. -/
def next? (x c : String) : Option ℕ := do
  number? (← after? (x ++ "' = ") c)

/-- The index and the value in `x' = [x EXCEPT ![i] = v]`. -/
def update? (x c : String) : Option (ℕ × String) := do
  let (i, rest) ← numeral? (← after? (x ++ "' = [" ++ x ++ " EXCEPT ![") c)
  let v ← before? "]" (← after? "] = " rest)
  return (i, v)

/-- The values at `0`, ..., `m` in `x = [i \in 0..m |-> v]`, where `v` does not depend on `i`. -/
def constant? (x c : String) : Option (List String) := do
  let (m, rest) ← numeral? (← after? "[i \\in 0.." (← after? (x ++ " = ") c))
  let v ← before? "]" (← after? " |-> " rest)
  if (before? "[i + 1]" v).isSome then none else return List.replicate (m + 1) v

/-! ### Steps -/

/-- The name of a step. -/
def stepName (k : ℕ) : String := "Step" ++ toString k

/-- The values of a variable at the indices `0`, `1`, ... after the first `k` steps. -/
def valuesAfter (defs : List Definition) (x : String) : ℕ → Option (List String)
  | 0 => do (← definition? defs "TraceInit").last? (constant? x)
  | k + 1 => do
    let values ← valuesAfter defs x k
    let (i, v) ← (← definition? defs (stepName (k + 1))).last? (update? x)
    return values.set i v

/-! ### Which lines start a definition -/

variable {line name rest first : String} {lines body : List String}

theorem definitionHead?_append (hname : isIdentifier name = true)
    (hrest : StopsAt isIdentifierRest rest) (hword : name ∉ keywords) :
    definitionHead? (name ++ rest) = (after? " ==" rest).map fun r => (name, r) := by
  simp only [definitionHead?, leading_append (isIdentifierRest_of_mem hname) hrest]
  rw [if_pos ⟨hname, hword⟩]

theorem definitionHead?_keyword (hname : name ∈ keywords) (hrest : StopsAt isIdentifierRest rest) :
    definitionHead? (name ++ rest) = none := by
  have hidentifier : ∀ w ∈ keywords, isIdentifier w = true := by decide
  simp only [definitionHead?,
    leading_append (isIdentifierRest_of_mem (hidentifier name hname)) hrest]
  rw [if_neg fun h => h.2 hname]

/-- A line that does not start with a word starts no definition. -/
theorem definitionHead?_of_stopsAt (h : StopsAt isIdentifierRest line) :
    definitionHead? line = none := by
  have hleading : leading isIdentifierRest ("" ++ line) = ("", line) :=
    leading_append (by simp) h
  rw [String.empty_append] at hleading
  simp [definitionHead?, hleading, isIdentifier]

theorem definitionHead?_of_isIndented (h : isIndented line = true) :
    definitionHead? line = none := by
  refine definitionHead?_of_stopsAt ?_
  simp only [isIndented, beq_iff_eq] at h
  simp only [StopsAt, h, Option.mem_some_iff, forall_eq']
  decide

theorem definitions_cons_of_none (h : definitionHead? line = none) :
    definitions (line :: lines) = definitions lines := by
  simp only [definitions, h]

theorem definitions_append_of_none {above : List String}
    (h : ∀ l ∈ above, definitionHead? l = none) :
    definitions (above ++ lines) = definitions lines := by
  induction above with
  | nil => rfl
  | cons l ls ih =>
    rw [List.cons_append, definitions_cons_of_none (h l (by simp))]
    exact ih fun l' hl' => h l' (List.mem_cons_of_mem _ hl')

@[simp] theorem definitions_empty_cons : definitions ("" :: lines) = definitions lines :=
  definitions_cons_of_none (definitionHead?_of_stopsAt (by decide))

/-- A definition with the indented lines below it. -/
theorem definitions_block (hhead : definitionHead? line = some (name, first))
    (hbody : ∀ l ∈ body, isIndented l = true) (hlines : ∀ l ∈ lines.head?, isIndented l = false) :
    definitions (line :: (body ++ lines)) = ⟨name, first, body⟩ :: definitions lines := by
  have hstop : lines.takeWhile isIndented = [] := by
    cases lines with
    | nil => rfl
    | cons l ls => rw [List.takeWhile_cons, hlines l rfl]; rfl
  have htake : (body ++ lines).takeWhile isIndented = body := by
    rw [List.takeWhile_append_of_pos hbody, hstop, List.append_nil]
  have hskip : definitions (body ++ lines) = definitions lines :=
    definitions_append_of_none fun l hl => definitionHead?_of_isIndented (hbody l hl)
  simp only [definitions, hhead, htake, hskip]

/-- A definition on one line. -/
theorem definitions_cons_of_some (hhead : definitionHead? line = some (name, first))
    (hlines : ∀ l ∈ lines.head?, isIndented l = false) :
    definitions (line :: lines) = ⟨name, first, []⟩ :: definitions lines :=
  definitions_block hhead (fun _ h => absurd h List.not_mem_nil) hlines

end Tla

end ReplicaTrace
