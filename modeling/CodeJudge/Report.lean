import CodeJudge.Presentation
/-!
Reports: all outcomes of a submission, each with where it is shown, and the one failure that the
editor shows.
-/
namespace CodeJudge

/-- An outcome and where it is shown. -/
structure TestCaseResult where
  outcome : ExecutionOutcome
  errorCategory : PresentationCategory
  errorType : PresentationKind
  showInEditor : Bool
  showInResults : Bool
  deriving Repr

namespace TestCaseResult

/-- The result for an outcome. -/
def ofOutcome (o : ExecutionOutcome) : TestCaseResult where
  outcome := o
  errorCategory := o.presentation.category
  errorType := o.presentation.kind
  showInEditor := o.presentation.showInEditor
  showInResults := o.presentation.showInResults

/-- The members of the outcome and then those of the result. -/
def toJson (r : TestCaseResult) : Json.Value :=
  .object (r.outcome.members
    ++ [("errorCategory", r.errorCategory.toJson), ("errorType", r.errorType.toJson),
      ("showInEditor", .bool r.showInEditor), ("showInResults", .bool r.showInResults)])

def shape : Json.Shape :=
  ⟨"TestCaseResult",
    [.of "errorCategory" PresentationCategory.ofJson, .of "errorType" PresentationKind.ofJson,
      .of "showInEditor" Json.Decode.bool, .of "showInResults" Json.Decode.bool]⟩

/-- A result is an object; the members that are not its own are those of the outcome. -/
def ofJson : Json.Decoder TestCaseResult := fun v => do
  let (slots, others) ← shape.openObject v
  let errorCategory ← slots.required "errorCategory" PresentationCategory.ofJson
  let errorType ← slots.required "errorType" PresentationKind.ofJson
  let showInEditor ← slots.required "showInEditor" Json.Decode.bool
  let showInResults ← slots.required "showInResults" Json.Decode.bool
  let outcome ← (ExecutionOutcome.ofJson (.object others)).mapError Json.DecodeError.inShared
  return ⟨outcome, errorCategory, errorType, showInEditor, showInResults⟩

end TestCaseResult

/-- All outcomes of a submission. -/
structure BatchReport where
  /-- The first outcome that is shown in the editor. -/
  editorError : Option Presentation
  testCaseResults : List TestCaseResult
  hasEditorError : Bool
  hasTestCaseErrors : Bool
  deriving Repr

namespace BatchReport

def ofOutcomes (outcomes : List ExecutionOutcome) : BatchReport :=
  let editorError := (outcomes.map (·.presentation)).find? (·.showInEditor)
  { editorError := editorError
    testCaseResults := outcomes.map TestCaseResult.ofOutcome
    hasEditorError := editorError.isSome
    hasTestCaseErrors := outcomes.any fun o => o.verdict == some .wrongAnswer }

def toJson (r : BatchReport) : Json.Value :=
  .object [("editorError", Json.Value.ofOption Presentation.toJson r.editorError),
    ("testCaseResults", .array (r.testCaseResults.map TestCaseResult.toJson)),
    ("hasEditorError", .bool r.hasEditorError), ("hasTestCaseErrors", .bool r.hasTestCaseErrors)]

def shape : Json.Shape :=
  ⟨"BatchReport",
    [.of "editorError" (Json.Decode.option Presentation.ofJson),
      .of "testCaseResults" (Json.Decode.list TestCaseResult.ofJson),
      .of "hasEditorError" Json.Decode.bool, .of "hasTestCaseErrors" Json.Decode.bool]⟩

def ofJson : Json.Decoder BatchReport := fun v => do
  let slots ← shape.openAny v
  return {
    editorError := ← slots.optional "editorError" Presentation.ofJson
    testCaseResults := ← slots.required "testCaseResults" (Json.Decode.list TestCaseResult.ofJson)
    hasEditorError := ← slots.required "hasEditorError" Json.Decode.bool
    hasTestCaseErrors := ← slots.required "hasTestCaseErrors" Json.Decode.bool }

end BatchReport

/-- A message as the editor shows it. -/
structure EditorMessage where
  severity : Severity
  title : String
  message : String
  details : Option String
  kind : PresentationKind
  lineNumber : Option Nat
  deriving DecidableEq, Repr

namespace EditorMessage

/-- The message of a presentation that is shown in the editor. -/
def ofPresentation? (p : Presentation) : Option EditorMessage :=
  if p.showInEditor then
    some {
      severity := p.kind.severity
      title := p.title
      message := p.message
      details := p.details
      kind := p.kind
      lineNumber := p.diagnostic.bind (·.lineNumber) }
  else none

def toJson (m : EditorMessage) : Json.Value :=
  .object ([("severity", m.severity.toJson), ("title", .string m.title),
      ("message", .string m.message), ("details", Json.Value.ofOption .string m.details),
      ("type", m.kind.toJson)]
    ++ Json.Value.member? "lineNumber" .nat m.lineNumber)

def shape : Json.Shape :=
  ⟨"EditorMessage",
    [.of "severity" Severity.ofJson, .of "title" Json.Decode.string,
      .of "message" Json.Decode.string, .of "details" (Json.Decode.option Json.Decode.string),
      .of "type" PresentationKind.ofJson,
      .of "lineNumber" (Json.Decode.option Json.Decode.size)]⟩

def ofJson : Json.Decoder EditorMessage := fun v => do
  let slots ← shape.openAny v
  return {
    severity := ← slots.required "severity" Severity.ofJson
    title := ← slots.required "title" Json.Decode.string
    message := ← slots.required "message" Json.Decode.string
    details := ← slots.optional "details" Json.Decode.string
    kind := ← slots.required "type" PresentationKind.ofJson
    lineNumber := ← slots.optional "lineNumber" Json.Decode.size }

end EditorMessage

end CodeJudge
