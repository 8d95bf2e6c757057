import CodeJudge.Diagnostic
/-!
Outcomes: what is known of one finished execution.
-/
namespace CodeJudge

/-- How an execution ended. -/
inductive ExecutionStatus where
  | compilationError
  | runtimeError
  | timeout
  | memoryExceeded
  | passed
  | failed
  | error
  /-- Any status of another name. -/
  | unknown
  deriving DecidableEq, Repr

namespace ExecutionStatus

def all : List ExecutionStatus :=
  [compilationError, runtimeError, timeout, memoryExceeded, passed, failed, error, unknown]

def name : ExecutionStatus → String
  | compilationError => "COMPILATION_ERROR"
  | runtimeError => "RUNTIME_ERROR"
  | timeout => "TIMEOUT"
  | memoryExceeded => "MEMORY_EXCEEDED"
  | passed => "PASSED"
  | failed => "FAILED"
  | error => "ERROR"
  | unknown => "UNKNOWN"

def toJson (s : ExecutionStatus) : Json.Value := .string s.name

def ofJson : Json.Decoder ExecutionStatus :=
  Json.Decode.variant (all.map fun s => (s.name, s)) (some unknown)

end ExecutionStatus

/-- How the answer to one test was judged. -/
inductive Verdict where
  | accepted
  | wrongAnswer
  | compilationError
  | runtimeError
  | timeLimitExceeded
  | memoryLimitExceeded
  /-- Any verdict of another name. -/
  | unknown
  deriving DecidableEq, Repr

namespace Verdict

def all : List Verdict :=
  [accepted, wrongAnswer, compilationError, runtimeError, timeLimitExceeded,
    memoryLimitExceeded, unknown]

def name : Verdict → String
  | accepted => "ACCEPTED"
  | wrongAnswer => "WRONG_ANSWER"
  | compilationError => "COMPILATION_ERROR"
  | runtimeError => "RUNTIME_ERROR"
  | timeLimitExceeded => "TIME_LIMIT_EXCEEDED"
  | memoryLimitExceeded => "MEMORY_LIMIT_EXCEEDED"
  | unknown => "UNKNOWN"

def toJson (v : Verdict) : Json.Value := .string v.name

def ofJson : Json.Decoder Verdict :=
  Json.Decode.variant (all.map fun v => (v.name, v)) (some unknown)

end Verdict

/-- One finished execution, usually of one test. -/
structure ExecutionOutcome where
  status : Option ExecutionStatus := none
  verdict : Option Verdict := none
  testCaseId : Option Json.Value := none
  /-- The text of the failure of the running program. -/
  error : Option String := none
  compileOutput : Option String := none
  diagnostic : Option Diagnostic := none
  /-- Other members of the data, by ascending keys, which are handed on untouched. -/
  extra : List (String × Json.Value) := []
  deriving Repr

namespace ExecutionOutcome

/-- The members of the data: the known ones in order and then the others. -/
def members (o : ExecutionOutcome) : List (String × Json.Value) :=
  Json.Value.member? "status" ExecutionStatus.toJson o.status
    ++ Json.Value.member? "verdict" Verdict.toJson o.verdict
    ++ Json.Value.member? "testCaseId" id o.testCaseId
    ++ Json.Value.member? "error" .string o.error
    ++ Json.Value.member? "compileOutput" .string o.compileOutput
    ++ Json.Value.member? "diagnostic" Diagnostic.toJson o.diagnostic
    ++ o.extra

def toJson (o : ExecutionOutcome) : Json.Value := .object o.members

def shape : Json.Shape :=
  ⟨"ExecutionOutcome",
    [.of "status" (Json.Decode.option ExecutionStatus.ofJson) true,
      .of "verdict" (Json.Decode.option Verdict.ofJson) true,
      .of "testCaseId" (Json.Decode.option Json.Decode.any) true,
      .of "error" (Json.Decode.option Json.Decode.string) true,
      .of "compileOutput" (Json.Decode.option Json.Decode.string) true,
      .of "diagnostic" (Json.Decode.option Diagnostic.ofJson) true [] Diagnostic.shape.outline]⟩

/-- An outcome is an object; members that it does not know are kept. -/
def ofJson : Json.Decoder ExecutionOutcome := fun v => do
  let (slots, others) ← shape.openObject v
  return {
    status := ← slots.optional "status" ExecutionStatus.ofJson
    verdict := ← slots.optional "verdict" Verdict.ofJson
    testCaseId := ← slots.optional "testCaseId" Json.Decode.any
    error := ← slots.optional "error" Json.Decode.string
    compileOutput := ← slots.optional "compileOutput" Json.Decode.string
    diagnostic := ← slots.optional "diagnostic" Diagnostic.ofJson
    extra := Json.sortMembers (others.map fun (k, v) => (k, v.sorted)) }

end ExecutionOutcome

end CodeJudge
