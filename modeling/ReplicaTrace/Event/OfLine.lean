import ReplicaTrace.Event.Basic
import ReplicaTrace.Tally

/-!
# The event of a log line

A line gives an event when four of its fields are as they should be.  They are looked at in this
order, and the first that is not is the fault:

1. `action` and `ID` are present and not empty;
2. `slot` is present, not empty and a number below `2^64`;
3. `ballot` is present, has three parts between points or more, and the third is a number from
   `-2^63` to `2^63 - 1`, the round.  The other parts do not matter.
-/

namespace ReplicaTrace

open Text

/-- The fields of an event. -/
inductive EventField where
  | action
  | id
  | slot
  | ballot
deriving DecidableEq, Repr

/-- The key of the field. -/
def EventField.key : EventField → String
  | .action => "action"
  | .id => "ID"
  | .slot => "slot"
  | .ballot => "ballot"

/-- Why a line gives no event. -/
inductive EventError where
  /-- A field is absent or empty. -/
  | missing (field : EventField)
  /-- The slot is no number within bounds. -/
  | badSlot (value : String) (cause : NumberError)
  /-- There is no ballot. -/
  | noBallot
  /-- The ballot has fewer than three parts. -/
  | shortBallot (value : String)
  /-- The round is no number within bounds. -/
  | badRound (value : String) (cause : NumberError)
deriving DecidableEq, Repr

namespace EventError

/-- The reason under which the line is counted. -/
def reason : EventError → SkipReason
  | missing _ => .missingField
  | _ => .format

/-- The message about a field that is present and not written as it should be. -/
def formatMessage (field : EventField) (value reason : String) : String :=
  s!"field {quoted field.key} has invalid value {quoted value}: {reason}"

/-- What is said about the fault. -/
def message : EventError → String
  | missing field => s!"missing required field {quoted field.key}"
  | badSlot value cause => formatMessage .slot value cause.message
  | noBallot => formatMessage .ballot "" "ballot is absent"
  | shortBallot value => formatMessage .ballot value "expected major.minor.round"
  | badRound value cause => formatMessage .ballot value cause.message

end EventError

/-- A field that must be present and not empty. -/
def required (fields : Fields) (field : EventField) : Except EventError String :=
  match fields.get? field.key with
  | some value => if value = "" then .error (.missing field) else .ok value
  | none => .error (.missing field)

/-- Reads a slot. -/
def readSlot (value : String) : Except EventError Nat :=
  match readNat max64 value.toList with
  | .ok slot => .ok slot
  | .error cause => .error (.badSlot value cause)

/-- Reads the round of a ballot `major.minor.round`. -/
def readBallot (value : String) : Except EventError Int :=
  match (value.toList.splitOn '.')[2]? with
  | none => .error (.shortBallot value)
  | some round =>
    match readInt bound64 round with
    | .ok ballot => .ok ballot
    | .error cause => .error (.badRound value cause)

/-- The event of a line. -/
def Event.ofLine (line : LogLine) : Except EventError Event := do
  let action ← required line.fields .action
  let id ← required line.fields .id
  let slot ← readSlot (← required line.fields .slot)
  let ballot ← match line.fields.get? EventField.ballot.key with
    | some value => readBallot value
    | none => .error .noBallot
  return {
    time := line.time, source := line.source, line := line.number, raw := line.raw,
    action := .ofLabel action, server := ⟨id⟩, slot, ballot }

/-- The events of lines, and for the other lines number and fault, both in the lines' order. -/
structure Normalized where
  /-- The events. -/
  events : List Event
  /-- The lines that give none. -/
  faults : List (Nat × EventError)
  /-- The counts. -/
  tally : Tally

/-- The events of lines. -/
def Normalized.ofLines (lines : List LogLine) : Normalized where
  events := lines.filterMap fun l => (Event.ofLine l).toOption
  faults := lines.filterMap fun l =>
    match Event.ofLine l with
    | .ok _ => none
    | .error e => some (l.number, e)
  tally := .sum (lines.map fun l =>
    match Event.ofLine l with
    | .ok _ => { events := 1 }
    | .error e => .skip e.reason)

end ReplicaTrace
