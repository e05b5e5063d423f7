import NeighborGraph.Decimal.Text
import NeighborGraph.Text.Quoted

/-!
What is wrong with a JSON text, and where.

A fault keeps what was left of the text when reading stopped; its line and column are computed from
that, so that readers need not carry positions along. Columns count bytes.
-/

namespace NeighborGraph.Json

/-- A value that was found in place of another one. -/
inductive Found where
  | null
  | boolean (value : Bool)
  | integer (value : Int)
  | floating (value : Float)
  | text (value : String)
  | list
  | map

/-- What is wrong. -/
inductive Cause where
  | endInList
  | endInObject
  | endInString
  | endInValue
  | colonExpected
  | listEndExpected
  | objectEndExpected
  | wordExpected
  | valueExpected
  | badEscape
  | badNumber
  | numberTooGreat
  | controlInString
  | keyNotString
  | loneSurrogate
  | surrogateUnfinished
  | trailingComma
  | trailingText
  /-- A value of another type than the expected one. -/
  | wrongType (found : Found) (expected : String)
  /-- A value of the right type but out of its range. -/
  | wrongValue (found : Found) (expected : String)
  /-- A word that is none of the expected ones. -/
  | unknownWord (word : String) (expected : List String)
  /-- A field that has to be there and is not. -/
  | missingField (name : String)
  /-- A field that is there twice. -/
  | repeatedField (name : String)
  /-- A record written as a list of too few elements. -/
  | tooShort (length : Nat) (expected : String)
  /-- A value that its reader refused for a reason of its own. -/
  | refused (reason : String)

/-- A list in words: two words with `or`, one word alone, more after `one of`. -/
def alternatives : List String → String
  | [] => "there are no variants"
  | [a] => "expected `" ++ a ++ "`"
  | [a, b] => "expected `" ++ a ++ "` or `" ++ b ++ "`"
  | more => "expected one of " ++ ", ".intercalate (more.map fun a => "`" ++ a ++ "`")

/-- What was found, in words. -/
def Found.description : Found → String
  | .null => "null"
  | .boolean value => "boolean `" ++ (if value then "true" else "false") ++ "`"
  | .integer value => "integer `" ++ String.ofList (signText (value < 0) ++
      decimalText value.natAbs) ++ "`"
  | .floating value =>
    "floating point `" ++
      String.ofList (((BinaryNumber.ofDouble value).documentText?).getD []) ++ "`"
  | .text value => "string " ++ quoted value
  | .list => "sequence"
  | .map => "map"

/-- What is wrong, in words. -/
def Cause.message : Cause → String
  | endInList => "EOF while parsing a list"
  | endInObject => "EOF while parsing an object"
  | endInString => "EOF while parsing a string"
  | endInValue => "EOF while parsing a value"
  | colonExpected => "expected `:`"
  | listEndExpected => "expected `,` or `]`"
  | objectEndExpected => "expected `,` or `\x7d`"
  | wordExpected => "expected ident"
  | valueExpected => "expected value"
  | badEscape => "invalid escape"
  | badNumber => "invalid number"
  | numberTooGreat => "number out of range"
  | controlInString => "control character (\\u0000-\\u001F) found while parsing a string"
  | keyNotString => "key must be a string"
  | loneSurrogate => "lone leading surrogate in hex escape"
  | surrogateUnfinished => "unexpected end of hex escape"
  | trailingComma => "trailing comma"
  | trailingText => "trailing characters"
  | wrongType found expected => "invalid type: " ++ found.description ++ ", expected " ++ expected
  | wrongValue found expected => "invalid value: " ++ found.description ++ ", expected " ++ expected
  | unknownWord word expected => "unknown variant `" ++ word ++ "`, " ++ alternatives expected
  | missingField name => "missing field `" ++ name ++ "`"
  | repeatedField name => "duplicate field `" ++ name ++ "`"
  | tooShort length expected =>
    "invalid length " ++ String.ofList (decimalText length) ++ ", expected " ++ expected
  | refused reason => reason

/-- A fault in a text. -/
structure Fault where
  /-- What is wrong. -/
  cause : Cause
  /-- The text from the point where reading stopped. -/
  rest : List Char
  /-- How many bytes after that point belong to the fault. -/
  ahead : Nat
  /-- The reader had looked at the next byte without using it. -/
  peeked : Bool
  /-- The place is final; otherwise the record or list around it places the fault at its end. -/
  placed : Bool

namespace Fault

/-- A fault right after what was read. -/
def after (cause : Cause) (rest : List Char) : Fault := ⟨cause, rest, 0, false, true⟩

/-- A fault of the next byte. -/
def onNext (cause : Cause) (rest : List Char) : Fault :=
  ⟨cause, rest, if rest.isEmpty then 0 else 1, false, true⟩

/-- A fault before the next byte, which the reader has seen. -/
def beforeNext (cause : Cause) (rest : List Char) : Fault := ⟨cause, rest, 0, true, true⟩

/-- A fault that the record or list around it places. -/
def unplaced (cause : Cause) (rest : List Char) : Fault := ⟨cause, rest, 0, false, false⟩

end Fault

/-- How a text reaches the reader. A reader of a stream counts a byte as read once it has looked
at it. -/
inductive Source where
  | whole
  | stream
  deriving DecidableEq

/-- The bytes of a list of characters. -/
def byteLength (text : List Char) : Nat := text.foldl (fun n c => n + c.utf8Size) 0

/-- A line and a column, both for people: lines count from one, columns count the bytes read since
the last line end. -/
structure Place where
  /-- The line. -/
  line : Nat
  /-- The column. -/
  column : Nat
  deriving DecidableEq

namespace Place

/-- The place after one more byte. -/
def next (p : Place) (byte : UInt8) : Place :=
  if byte = 10 then ⟨p.line + 1, 0⟩ else ⟨p.line, p.column + 1⟩

/-- The place after the first bytes of a text. -/
def ofPrefix (text : List Char) (count : Nat) : Place :=
  ((String.ofList text).toUTF8.toList.take count).foldl next ⟨1, 0⟩

/-- The place in words. -/
def message (p : Place) : String :=
  "line " ++ String.ofList (decimalText p.line) ++ " column " ++
    String.ofList (decimalText p.column)

end Place

namespace Fault

/-- How many bytes of a text a fault counts as read. -/
def bytesRead (f : Fault) (source : Source) (text : List Char) : Nat :=
  byteLength text - byteLength f.rest + f.ahead +
    if source = .stream ∧ f.peeked ∧ ¬ f.rest.isEmpty then 1 else 0

end Fault

/-- What is wrong with a text, and where. -/
structure Report where
  /-- What is wrong. -/
  cause : Cause
  /-- Where it is. -/
  place : Place

/-- The report about a fault in a text. -/
def Fault.report (f : Fault) (source : Source) (text : List Char) : Report :=
  ⟨f.cause, Place.ofPrefix text (f.bytesRead source text)⟩

/-- The report in words. -/
def Report.message (r : Report) : String := r.cause.message ++ " at " ++ r.place.message

end NeighborGraph.Json
