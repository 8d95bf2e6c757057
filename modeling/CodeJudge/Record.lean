import CodeJudge.Outcome
import CodeJudge.TestCase
/-!
Records: what a generated program prints of each test.
-/
namespace CodeJudge

inductive RecordStatus where
  | passed
  | failed
  | error
  deriving DecidableEq, Repr

namespace RecordStatus

def all : List RecordStatus := [passed, failed, error]

def name : RecordStatus → String
  | passed => "PASSED"
  | failed => "FAILED"
  | error => "ERROR"

def toJson (s : RecordStatus) : Json.Value := .string s.name

def ofJson : Json.Decoder RecordStatus :=
  Json.Decode.variant (all.map fun s => (s.name, s)) none

/-- What the status says of the execution. -/
def execution : RecordStatus → ExecutionStatus
  | passed => .passed
  | failed => .failed
  | error => .runtimeError

/-- What the status says of the answer. -/
def verdict : RecordStatus → Verdict
  | passed => .accepted
  | failed => .wrongAnswer
  | error => .runtimeError

end RecordStatus

/-- The result of one test. -/
structure TestRecord where
  testCaseId : Json.Value
  status : RecordStatus
  actualOutput : Json.Value
  expectedOutput : Json.Value
  /-- In milliseconds. -/
  executionTime : Option Binary64
  /-- In kilobytes. -/
  memory : Option Binary64
  error : Option String
  deriving Repr

namespace TestRecord

/-- A number that may be missing. -/
def measure (x : Option Binary64) : Json.Value :=
  Json.Value.ofOption (fun x => .number (.float x)) x

def toJson (r : TestRecord) : Json.Value :=
  .object ([("testCaseId", r.testCaseId), ("status", r.status.toJson),
      ("actualOutput", r.actualOutput), ("expectedOutput", r.expectedOutput),
      ("executionTime", measure r.executionTime), ("memory", measure r.memory)]
    ++ Json.Value.member? "error" .string r.error)

def shape : Json.Shape :=
  ⟨"TestCaseRecord",
    [.of "testCaseId" Json.Decode.any, .of "status" RecordStatus.ofJson,
      .of "actualOutput" Json.Decode.any true, .of "expectedOutput" Json.Decode.any true,
      .of "executionTime" (Json.Decode.option Json.Decode.float) true,
      .of "memory" (Json.Decode.option Json.Decode.float) true,
      .of "error" (Json.Decode.option Json.Decode.string) true]⟩

def ofJson : Json.Decoder TestRecord := fun v => do
  let slots ← shape.openAny v
  return {
    testCaseId := ← slots.required "testCaseId" Json.Decode.any
    status := ← slots.required "status" RecordStatus.ofJson
    actualOutput := ← slots.withDefault "actualOutput" .null Json.Decode.any
    expectedOutput := ← slots.withDefault "expectedOutput" .null Json.Decode.any
    executionTime := ← slots.optional "executionTime" Json.Decode.float
    memory := ← slots.optional "memory" Json.Decode.float
    error := ← slots.optional "error" Json.Decode.string }

/-- The record of a test of which nothing was printed. -/
def missing (t : TestCase) : TestRecord where
  testCaseId := t.id
  status := .error
  actualOutput := .null
  expectedOutput := t.output
  executionTime := none
  memory := none
  error := some "No result reported for this test case"

/-- What a record tells of the execution. -/
def toOutcome (r : TestRecord) : ExecutionOutcome where
  status := some r.status.execution
  verdict := some r.status.verdict
  testCaseId := some r.testCaseId
  error := r.error
  extra := [("actualOutput", r.actualOutput), ("executionTime", measure r.executionTime),
    ("expectedOutput", r.expectedOutput), ("memory", measure r.memory)]

/-- The records of tests in the order of the tests: to each test belongs the first record left
that has its identifier, and records that belong to no test are dropped. -/
def reconcile : List TestRecord → List TestCase → List TestRecord
  | _, [] => []
  | records, t :: ts =>
    match records.find? fun r => r.testCaseId == t.id with
    | some r => r :: reconcile (records.eraseP fun r => r.testCaseId == t.id) ts
    | none => missing t :: reconcile records ts

end TestRecord

end CodeJudge
