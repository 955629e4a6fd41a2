import ReplicaTrace.Log.Line
import ReplicaTrace.Tally
import ReplicaTrace.Text.Utf8

/-!
# Contents of a log file

The bytes of a log file are cut into lines, and each line is read for itself: a byte that is no
text costs only the line in which it stands.  A line is *relevant* when the marker occurs in it; of
a line that is no text, in its reading with replacement characters.

* `splitLines` : the lines, without line feeds and without a carriage return before one.
* `readLine` : what becomes of one line.
* `readContents` : the lines and the faults of a file in its order, with the counts.
* `readAllLines_append` : the lines of two parts, one after the other, are read as those of the
  first and then those of the second, with higher numbers.
-/

namespace ReplicaTrace

open Text

/-- The bytes without the given last byte. -/
def dropFinal (b : UInt8) (bs : Bytes) : Bytes :=
  if bs.getLast? = some b then bs.dropLast else bs

/-- The line feed. -/
def lineFeed : UInt8 := 0x0A

/-- The carriage return. -/
def carriageReturn : UInt8 := 0x0D

/-- The lines: a final line feed ends the last line, and data of nothing else has no line. -/
def splitLines (data : Bytes) : List Bytes :=
  match dropFinal lineFeed data with
  | [] => []
  | body => (body.splitOn lineFeed).map (dropFinal carriageReturn)

/-- What becomes of one line. -/
inductive Reading where
  /-- The line does not carry the marker. -/
  | irrelevant (isText : Bool)
  /-- The line was read. -/
  | line (line : LogLine)
  /-- The line carries the marker and could not be read. -/
  | fault (error : LineError)
deriving DecidableEq

namespace Reading

/-- The line that was read. -/
def line? : Reading → Option LogLine
  | line l => some l
  | _ => none

/-- The fault of a relevant line. -/
def fault? : Reading → Option LineError
  | fault e => some e
  | _ => none

/-- The counts of the line. -/
def tally : Reading → Tally
  | irrelevant isText => { scanned := 1, notUtf8 := if isText then 0 else 1 }
  | line _ => { scanned := 1, matched := 1 }
  | fault (.notUtf8 _ _) => { scanned := 1, matched := 1, malformed := 1, notUtf8 := 1 }
  | fault _ => { scanned := 1, matched := 1, malformed := 1 }

end Reading

/-- Reads one line of a file. -/
def readLine (marker : String) (source : Source) (number : Nat) (bytes : Bytes) : Reading :=
  match Utf8.decode? bytes with
  | some text =>
    if occursIn marker.toList text then
      match LogLine.read source number text with
      | .ok line => .line line
      | .error e => .fault e
    else .irrelevant true
  | none =>
    if occursIn marker.toList (Utf8.lossy bytes) then
      .fault (.notUtf8 number (Utf8.validLength bytes))
    else .irrelevant false

/-- Reads lines of a file that come after `before` others. -/
def readAllLines (marker : String) (source : Source) (before : Nat) (lines : List Bytes) :
    List Reading :=
  lines.mapIdx fun i bytes => readLine marker source (before + i + 1) bytes

/-- The relevant lines of a file. -/
structure Contents where
  /-- The lines that were read, in their order. -/
  lines : List LogLine
  /-- The faults of the others, in their order. -/
  faults : List LineError
  /-- The counts of all lines. -/
  tally : Tally
deriving DecidableEq

/-- Puts together what became of the lines. -/
def Contents.ofReadings (readings : List Reading) : Contents where
  lines := readings.filterMap Reading.line?
  faults := readings.filterMap Reading.fault?
  tally := Tally.sum (readings.map Reading.tally)

/-- Reads the contents of a file. -/
def readContents (marker : String) (source : Source) (data : Bytes) : Contents :=
  .ofReadings (readAllLines marker source 0 (splitLines data))

theorem readAllLines_append (marker : String) (source : Source) (before : Nat)
    (xs ys : List Bytes) :
    readAllLines marker source before (xs ++ ys) =
      readAllLines marker source before xs ++
        readAllLines marker source (before + xs.length) ys := by
  simp [readAllLines, List.mapIdx_append, Nat.add_assoc, Nat.add_comm, Nat.add_left_comm]

end ReplicaTrace
