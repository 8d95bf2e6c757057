import CodeJudge.Json.Document
import CodeJudge.Record
import CodeJudge.Text.Blank
/-!
Reading records from the output of a program. The array of records starts a line; other lines may
come before it, and the program may have been stopped before the array was complete.
-/
namespace CodeJudge

/-- Why an output gives no records. -/
inductive RecordsError where
  | noArray
  | malformed
  deriving DecidableEq, Repr

def RecordsError.message : RecordsError → String
  | noArray => "RECORDS/no result array in program output"
  | malformed => "RECORDS/malformed result array: <json>"

namespace TestRecord

/-- What follows each line feed. -/
def afterBreaks : List Char → List (List Char)
  | [] => []
  | c :: cs => if c == '\n' then cs :: afterBreaks cs else afterBreaks cs

/-- Whether the first character that is not white space opens an array. -/
def opensArray (cs : List Char) : Bool := (cs.dropWhile Text.isBlank).head? == some '['

/-- The output from each line on at whose start an array may open. -/
def openings (output : List Char) : List (List Char) :=
  (output :: afterBreaks output).filter opensArray

/-- The records of a text that is one array of them. -/
def readArray? (cs : List Char) : Option (List TestRecord) :=
  Json.decodeText? (Json.Decode.list ofJson) (.items shape.outline) cs

/-- A text up to its last closing brace, and the array closed behind it. -/
def closeArray (cs : List Char) : List Char :=
  match cs.reverse.dropWhile (· != '\x7d') with
  | [] => ['[', ']']
  | kept => kept.reverse ++ [']']

/-- The records in the output of a program: those of the first array that is complete up to the
end, or those that are complete in the last array. -/
def ofOutput (output : String) : Except RecordsError (List TestRecord) :=
  let starts := openings output.toList
  match starts.getLast? with
  | none => .error .noArray
  | some last =>
    match starts.findSome? fun cs => readArray? (Text.trimmed cs) with
    | some records => .ok records
    | none =>
      match readArray? (closeArray (Text.trimmed last)) with
      | some records => .ok records
      | none => .error .malformed

end TestRecord

end CodeJudge
