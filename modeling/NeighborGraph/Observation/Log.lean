import NeighborGraph.Document.Load
import NeighborGraph.Observation.Tally
import NeighborGraph.Text.Blank

/-!
Observation logs: one JSON object on each line.

Blank lines are passed over but counted. The first line that is no text or no observation ends the
reading with a fault; nothing after it matters.
-/

namespace NeighborGraph

open Json

/-- A packet count: a number that is finite and not negative. -/
def readPacketCount : Reader Float := fun text => do
  let (count, rest) ← readFloat text
  if Scalar.isMagnitude count then return (count, rest)
  else
    throw (.unplaced (.refused ("packet count must be a finite, non-negative number, got " ++
      Double.plainText count)) rest)

/-- How an observation is read. -/
def Observation.form : RecordForm Observation where
  title := "struct ArpObservation"
  start := ⟨"", "", 0⟩
  fields := [
    .mandatory "s" readText fun source o => { o with source },
    .mandatory "d" readText fun destination o => { o with destination },
    .mandatory "pk" readPacketCount fun packets o => { o with packets }]

/-- The observation that the text of a line holds. -/
def Observation.ofJson (text : List Char) : Except Fault Observation :=
  readWhole (readRecord form) text

namespace ObservationLog

/-- The lines of a log. A line ends with a line feed, which a carriage return may precede; the last
line need not end. `line` holds the bytes of the line so far, last first. -/
def linesFrom (line : List UInt8) : List UInt8 → List (List UInt8)
  | [] => if line.isEmpty then [] else [line.reverse]
  | byte :: rest =>
    if byte = 10 then
      (match line with
        | 13 :: others => others.reverse
        | _ => line.reverse) :: linesFrom [] rest
    else linesFrom (byte :: line) rest

/-- The lines of a log. -/
def lines (log : List UInt8) : List (List UInt8) := linesFrom [] log

/-- The text that bytes encode, if they encode one. -/
def decode? (bytes : List UInt8) : Option (List Char) :=
  (String.fromUTF8? ⟨bytes.toArray⟩).map String.toList

/-- What a line adds to a tally. -/
def readLine (number : Nat) (tally : Tally) (line : List UInt8) : Except LoadFault Tally :=
  match decode? line with
  | none => .error (.unreadable .notText)
  | some text =>
    if isBlankText text then .ok tally
    else
      match Observation.ofJson text with
      | .ok o => .ok (tally.observe o)
      | .error fault => .error (.badObservation number (fault.report .whole text))

/-- What lines add to a tally, the first of them having the given number. -/
def readLines : Nat → Tally → List (List UInt8) → Except LoadFault Tally
  | _, tally, [] => .ok tally
  | number, tally, line :: rest => do readLines (number + 1) (← readLine number tally line) rest

/-- The document of a log. -/
def toDocument (log : List UInt8) : Except LoadFault Document := do
  return (← readLines 1 .empty (lines log)).toDocument

end ObservationLog

end NeighborGraph
