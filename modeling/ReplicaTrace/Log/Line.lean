import ReplicaTrace.Calendar.Timestamp
import ReplicaTrace.Log.Fields
import ReplicaTrace.Text.Quoted

/-!
# Log lines

A replica prints a relevant line as words: the marker, a date, a time, a place in its code, and the
fields of the event, as in

    [TEST] 2024/01/02 15:04:05.123456 paxos.go:122: ID:1,action:P2a,slot:3,ballot:1.0.2

`LogLine.read` takes the date from the second word, the time from the third and the fields from the
fifth, whatever the other words are; the first thing that is missing or malformed, in this order,
is the fault.  `LogLine.write` is the way back.
-/

namespace ReplicaTrace

open Text Calendar

/-- A log file of the run. -/
structure Source where
  /-- The place of the file among the files of the run, from `0`. -/
  rank : Nat
  /-- The name under which the file was given. -/
  location : String
deriving DecidableEq, Repr

/-- A relevant line. -/
structure LogLine where
  /-- Milliseconds since the start of 1970. -/
  time : Int
  /-- The file that holds the line. -/
  source : Source
  /-- The number of the line in its file, from `1`. -/
  number : Nat
  /-- The line itself, without blanks at its end. -/
  raw : String
  /-- The fields of the event. -/
  fields : Fields
deriving DecidableEq

/-- The words of a line that carry something. -/
inductive Part where
  | date
  | time
  | state
deriving DecidableEq, Repr

/-- The place of the word in the line, from `0`. -/
def Part.position : Part → Nat
  | .date => 1
  | .time => 2
  | .state => 4

/-- The name of the word. -/
def Part.name : Part → String
  | .date => "date"
  | .time => "time"
  | .state => "state"

/-- Why a relevant line could not be read. -/
inductive LineError where
  /-- The line has too few words. -/
  | missing (line : Nat) (part : Part)
  /-- Date and time are no time stamp. -/
  | badTimestamp (line : Nat) (text : String) (cause : TimestampError)
  /-- A field is not of the form `key:value`. -/
  | badField (line : Nat) (field : String)
  /-- The bytes of the line are no text; so many of them at the start are. -/
  | notUtf8 (line : Nat) (validLength : Nat)
deriving DecidableEq, Repr

namespace LineError

/-- The number of the line. -/
def line : LineError → Nat
  | missing n _ => n
  | badTimestamp n _ _ => n
  | badField n _ => n
  | notUtf8 n _ => n

/-- What is said about the fault. -/
def message : LineError → String
  | missing n part => s!"line {n}: missing {part.name} (token {part.position})"
  | badTimestamp n text cause => s!"line {n}: invalid timestamp {quoted text}: {cause.message}"
  | badField n field => s!"line {n}: state field {quoted field} is not key:value"
  | notUtf8 n valid => s!"line {n}: invalid UTF-8 after byte {valid}"

end LineError

/-- The needle stands somewhere in the list, as one stretch. -/
def occursIn {α : Type} [BEq α] (needle : List α) : List α → Bool
  | [] => needle.isEmpty
  | x :: xs => needle.isPrefixOf (x :: xs) || occursIn needle xs

theorem occursIn_iff {α : Type} [BEq α] [LawfulBEq α] {needle xs : List α} :
    occursIn needle xs = true ↔ needle <:+: xs := by
  induction xs with
  | nil => simp [occursIn, List.isEmpty_iff]
  | cons x xs ih => simp [occursIn, ih, List.infix_cons_iff]

namespace LogLine

/-- The word of a part, if the line has enough words. -/
def part (words : List (List Char)) (number : Nat) (p : Part) : Except LineError (List Char) :=
  match words[p.position]? with
  | some word => .ok word
  | none => .error (.missing number p)

/-- Reads a line. -/
def read (source : Source) (number : Nat) (raw : List Char) : Except LineError LogLine := do
  let date ← part (words raw) number .date
  let time ← part (words raw) number .time
  let state ← part (words raw) number .state
  let stamp := date ++ ' ' :: time
  let millis ← match readTimestamp stamp with
    | .ok millis => .ok millis
    | .error cause => .error (.badTimestamp number (String.ofList stamp) cause)
  let fields ← match Fields.read state with
    | .ok fields => .ok fields
    | .error field => .error (.badField number field)
  return ⟨millis, source, number, String.ofList (trimEnd raw), fields⟩

/-- Writes a moment and fields as a line with the given first word and place in the code. -/
def write (first code : List Char) (time : Int) (fields : Fields) : List Char :=
  first ++ ' ' :: writeTimestamp time ++ ' ' :: code ++ ' ' :: fields.write

end LogLine

end ReplicaTrace
