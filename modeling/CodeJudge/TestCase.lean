import CodeJudge.Json.Decode
import CodeJudge.Json.Printer
/-!
Test cases: positional inputs and the expected output.
-/
namespace CodeJudge

structure TestCase where
  id : Json.Value
  input : List Json.Value
  output : Json.Value
  deriving Repr

namespace TestCase

/-- The identifier as JSON text. -/
def idText (t : TestCase) : String := t.id.toText

/-- The expected output as JSON text. -/
def outputText (t : TestCase) : String := t.output.toText

def toJson (t : TestCase) : Json.Value :=
  .object [("id", t.id), ("input", .array t.input), ("output", t.output)]

def shape : Json.Shape :=
  ⟨"TestCase",
    [.of "id" Json.Decode.any, .of "input" (Json.Decode.list Json.Decode.any),
      .of "output" Json.Decode.any false ["expected", "expectedOutput"]]⟩

def ofJson : Json.Decoder TestCase := fun v => do
  let slots ← shape.openAny v
  return {
    id := ← slots.required "id" Json.Decode.any
    input := ← slots.required "input" (Json.Decode.list Json.Decode.any)
    output := ← slots.required "output" Json.Decode.any }

end TestCase

/-- The JSON text of a list of test cases, as a program that reads its tests at run time has it. -/
def testCasesText (tests : List TestCase) : String :=
  (Json.Value.array (tests.map TestCase.toJson)).toText

end CodeJudge
