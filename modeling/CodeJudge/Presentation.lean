import CodeJudge.Outcome
import CodeJudge.Presentation.Message
/-!
Presentations: where an outcome is shown and with what words. Failures to compile, crashes and
limits are shown in the editor, wrong answers with the results of the tests.
-/
namespace CodeJudge

/-- Where an outcome is shown. -/
inductive PresentationCategory where
  | editorError
  | testCaseError
  | success
  deriving DecidableEq, Repr

namespace PresentationCategory

def all : List PresentationCategory := [editorError, testCaseError, success]

def name : PresentationCategory → String
  | editorError => "EDITOR_ERROR"
  | testCaseError => "TEST_CASE_ERROR"
  | success => "SUCCESS"

def toJson (c : PresentationCategory) : Json.Value := .string c.name

def ofJson : Json.Decoder PresentationCategory :=
  Json.Decode.variant (all.map fun c => (c.name, c)) none

end PresentationCategory

/-- How bad a message in the editor is. -/
inductive Severity where
  | error
  | warning
  deriving DecidableEq, Repr

namespace Severity

def all : List Severity := [error, warning]

def name : Severity → String
  | error => "error"
  | warning => "warning"

def toJson (s : Severity) : Json.Value := .string s.name

def ofJson : Json.Decoder Severity := Json.Decode.variant (all.map fun s => (s.name, s)) none

end Severity

/-- What an outcome is shown as. -/
inductive PresentationKind where
  | compilationError
  | runtimeError
  | timeLimitExceeded
  | memoryLimitExceeded
  | wrongAnswer
  | accepted
  | internalError
  deriving DecidableEq, Repr

namespace PresentationKind

def all : List PresentationKind :=
  [compilationError, runtimeError, timeLimitExceeded, memoryLimitExceeded, wrongAnswer, accepted,
    internalError]

def name : PresentationKind → String
  | compilationError => "COMPILATION_ERROR"
  | runtimeError => "RUNTIME_ERROR"
  | timeLimitExceeded => "TIME_LIMIT_EXCEEDED"
  | memoryLimitExceeded => "MEMORY_LIMIT_EXCEEDED"
  | wrongAnswer => "WRONG_ANSWER"
  | accepted => "ACCEPTED"
  | internalError => "INTERNAL_ERROR"

/-- Crashes and limits are warnings. -/
def severity : PresentationKind → Severity
  | runtimeError | timeLimitExceeded | memoryLimitExceeded => .warning
  | _ => .error

def category : PresentationKind → PresentationCategory
  | wrongAnswer => .testCaseError
  | accepted => .success
  | _ => .editorError

def title : PresentationKind → String
  | compilationError => "Compilation Error"
  | runtimeError => "Runtime Error"
  | timeLimitExceeded => "Time Limit Exceeded"
  | memoryLimitExceeded => "Memory Limit Exceeded"
  | wrongAnswer => "Wrong Answer"
  | accepted => "Accepted"
  | internalError => "Internal Error"

def toJson (k : PresentationKind) : Json.Value := .string k.name

def ofJson : Json.Decoder PresentationKind :=
  Json.Decode.variant (all.map fun k => (k.name, k)) none

end PresentationKind

/-- How one outcome is shown. -/
structure Presentation where
  category : PresentationCategory
  kind : PresentationKind
  showInEditor : Bool
  showInResults : Bool
  title : String
  message : String
  details : Option String
  diagnostic : Option Diagnostic
  deriving DecidableEq, Repr

namespace Presentation

def toJson (p : Presentation) : Json.Value :=
  .object ([("category", p.category.toJson), ("type", p.kind.toJson),
      ("showInEditor", .bool p.showInEditor), ("showInResults", .bool p.showInResults),
      ("title", .string p.title), ("message", .string p.message),
      ("details", Json.Value.ofOption .string p.details)]
    ++ Json.Value.member? "diagnostic" Diagnostic.toJson p.diagnostic)

def shape : Json.Shape :=
  ⟨"Presentation",
    [.of "category" PresentationCategory.ofJson, .of "type" PresentationKind.ofJson,
      .of "showInEditor" Json.Decode.bool, .of "showInResults" Json.Decode.bool,
      .of "title" Json.Decode.string, .of "message" Json.Decode.string,
      .of "details" (Json.Decode.option Json.Decode.string) true,
      .of "diagnostic" (Json.Decode.option Diagnostic.ofJson) true]⟩

def ofJson : Json.Decoder Presentation := fun v => do
  let slots ← shape.openAny v
  return {
    category := ← slots.required "category" PresentationCategory.ofJson
    kind := ← slots.required "type" PresentationKind.ofJson
    showInEditor := ← slots.required "showInEditor" Json.Decode.bool
    showInResults := ← slots.required "showInResults" Json.Decode.bool
    title := ← slots.required "title" Json.Decode.string
    message := ← slots.required "message" Json.Decode.string
    details := ← slots.optional "details" Json.Decode.string
    diagnostic := ← slots.optional "diagnostic" Diagnostic.ofJson }

/-- The presentation of a kind. -/
def ofKind (kind : PresentationKind) (message : String) (details : Option String) :
    Presentation where
  category := kind.category
  kind := kind
  showInEditor := kind.category == .editorError
  showInResults := kind.category != .editorError
  title := kind.title
  message := message
  details := details
  diagnostic := none

end Presentation

namespace ExecutionOutcome

/-- What an outcome is shown as. Its status or its verdict may say so, and of the failures one
that comes earlier in the life of a program counts more. -/
def kind (o : ExecutionOutcome) : PresentationKind :=
  if o.status == some .compilationError || o.verdict == some .compilationError then
    .compilationError
  else if o.status == some .runtimeError || o.verdict == some .runtimeError then .runtimeError
  else if o.status == some .timeout || o.verdict == some .timeLimitExceeded then
    .timeLimitExceeded
  else if o.status == some .memoryExceeded || o.verdict == some .memoryLimitExceeded then
    .memoryLimitExceeded
  else if o.verdict == some .wrongAnswer then .wrongAnswer
  else if o.status == some .passed || o.verdict == some .accepted then .accepted
  else .internalError

/-- What a compiler said: its own output or else the text of the failure. -/
def compilerText (o : ExecutionOutcome) : Option String := o.compileOutput <|> o.error

/-- The one line that sums up an outcome. -/
def message (o : ExecutionOutcome) : String :=
  match o.kind with
  | .compilationError => Message.ofCompilation o.compilerText
  | .runtimeError => Message.ofCrash o.error
  | .timeLimitExceeded => "Your code took too long to execute"
  | .memoryLimitExceeded => "Your code used too much memory"
  | .wrongAnswer => "Your output does not match the expected output"
  | .accepted => "All test cases passed!"
  | .internalError => "An unexpected error occurred"

/-- What is said beyond the one line. -/
def messageDetails (o : ExecutionOutcome) : Option String :=
  match o.kind with
  | .compilationError => o.compilerText
  | .runtimeError => o.error
  | .timeLimitExceeded => some "Consider optimizing your algorithm for better time complexity"
  | .memoryLimitExceeded => some "Consider optimizing your space complexity"
  | .wrongAnswer | .accepted => none
  | .internalError => some (o.error.getD "Unknown error")

/-- How an outcome is shown; a diagnostic belongs to what is shown in the editor. -/
def presentation (o : ExecutionOutcome) : Presentation :=
  { Presentation.ofKind o.kind o.message o.messageDetails with
    diagnostic := if o.kind.category = .editorError then o.diagnostic else none }

end ExecutionOutcome

end CodeJudge
