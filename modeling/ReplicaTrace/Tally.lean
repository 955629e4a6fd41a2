/-!
# Counting lines and events

A run counts the lines that it read and the events that it took from them, and for what it left out
the reason.  The counts of several files are added (`Tally.add_comm`, `Tally.add_assoc`), so that
their order does not matter.
-/

namespace ReplicaTrace

/-- Why a relevant line or its event is not part of the trace. -/
inductive SkipReason where
  /-- The line could not be read. -/
  | malformedLine
  /-- A field that an event must have is absent or empty. -/
  | missingField
  /-- The slot or the ballot is not written as it should be. -/
  | format
  /-- The server is not in the registry. -/
  | unknownServer
deriving DecidableEq, Repr

/-- The name of the reason in reports. -/
def SkipReason.label : SkipReason → String
  | .malformedLine => "malformed_line"
  | .missingField => "missing_field"
  | .format => "format"
  | .unknownServer => "unknown_server"

/-- The counts of one file, or of all files of a run. -/
structure Tally where
  /-- All lines. -/
  scanned : Nat := 0
  /-- The lines that carry the marker. -/
  matched : Nat := 0
  /-- The events taken from them. -/
  events : Nat := 0
  /-- Lines that could not be read. -/
  malformed : Nat := 0
  /-- Lines without a field that an event must have. -/
  missingField : Nat := 0
  /-- Lines with a slot or ballot that is not written as it should be. -/
  badFormat : Nat := 0
  /-- Events of servers that are not in the registry. -/
  unknownServer : Nat := 0
  /-- Neighbouring events of a file that go back in time. -/
  outOfOrder : Nat := 0
  /-- Lines that are no UTF-8, relevant or not. -/
  notUtf8 : Nat := 0
deriving DecidableEq, Repr

namespace Tally

instance : Zero Tally := ⟨{}⟩

/-- The counts of two parts together. -/
protected def add (a b : Tally) : Tally where
  scanned := a.scanned + b.scanned
  matched := a.matched + b.matched
  events := a.events + b.events
  malformed := a.malformed + b.malformed
  missingField := a.missingField + b.missingField
  badFormat := a.badFormat + b.badFormat
  unknownServer := a.unknownServer + b.unknownServer
  outOfOrder := a.outOfOrder + b.outOfOrder
  notUtf8 := a.notUtf8 + b.notUtf8

instance : Add Tally := ⟨Tally.add⟩

/-- One line or event left out for the reason. -/
def skip : SkipReason → Tally
  | .malformedLine => { malformed := 1 }
  | .missingField => { missingField := 1 }
  | .format => { badFormat := 1 }
  | .unknownServer => { unknownServer := 1 }

/-- How many lines or events were left out for the reason. -/
def skipped (t : Tally) : SkipReason → Nat
  | .malformedLine => t.malformed
  | .missingField => t.missingField
  | .format => t.badFormat
  | .unknownServer => t.unknownServer

/-- The counts of all parts together. -/
def sum (ts : List Tally) : Tally :=
  ts.foldl (· + ·) 0

/-- The lines that were read and yet gave no event. -/
def eventErrors (t : Tally) : Nat :=
  t.missingField + t.badFormat

/-- The relevant lines that are not part of the trace. -/
def skippedTotal (t : Tally) : Nat :=
  t.malformed + t.eventErrors + t.unknownServer

/-- The relevant lines that are part of the trace. -/
def kept (t : Tally) : Nat :=
  t.matched - t.skippedTotal

/-- The share of the relevant lines that are part of the trace, `1` if there are none. -/
def successRate (t : Tally) : Float :=
  if t.matched = 0 then 1.0 else Float.ofNat t.kept / Float.ofNat t.matched

/-! ### Addition -/

theorem add_def (a b : Tally) : a + b = Tally.add a b := rfl

theorem zero_def : (0 : Tally) = {} := rfl

protected theorem zero_add (a : Tally) : 0 + a = a := by
  simp [add_def, zero_def, Tally.add]

protected theorem add_zero (a : Tally) : a + 0 = a := by
  simp [add_def, zero_def, Tally.add]

protected theorem add_assoc (a b c : Tally) : a + b + c = a + (b + c) := by
  simp [add_def, Tally.add, Nat.add_assoc]

protected theorem add_comm (a b : Tally) : a + b = b + a := by
  simp [add_def, Tally.add, Nat.add_comm]

theorem foldl_add (t : Tally) (ts : List Tally) : ts.foldl (· + ·) t = t + sum ts := by
  induction ts generalizing t with
  | nil => exact (Tally.add_zero t).symm
  | cons u ts ih =>
    rw [sum, List.foldl_cons, List.foldl_cons, ih, ih, Tally.zero_add, Tally.add_assoc]

@[simp] theorem sum_cons (t : Tally) (ts : List Tally) : sum (t :: ts) = t + sum ts := by
  rw [sum, List.foldl_cons, foldl_add, Tally.zero_add]

theorem sum_append (ts us : List Tally) : sum (ts ++ us) = sum ts + sum us := by
  rw [sum, List.foldl_append, foldl_add]
  rfl

theorem skipped_add (a b : Tally) (r : SkipReason) :
    (a + b).skipped r = a.skipped r + b.skipped r := by
  cases r <;> rfl

/-- The total is made up of the four reasons. -/
theorem skippedTotal_eq (t : Tally) :
    t.skippedTotal = t.skipped .malformedLine + t.skipped .missingField + t.skipped .format +
      t.skipped .unknownServer := by
  simp only [skippedTotal, eventErrors, skipped]
  omega

end Tally

end ReplicaTrace
