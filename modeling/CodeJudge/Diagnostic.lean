import CodeJudge.Json.Decode
/-!
Diagnostics: what a failure of a compiler or of a running program is taken for, and what is shown
of it.
-/
namespace CodeJudge

/-- The kinds of failures, those of compilation first. -/
inductive Category where
  | syntaxError
  | indentationError
  | missingSemicolon
  | undefinedSymbol
  | typeMismatch
  | missingReturn
  | compilationError
  | divisionByZero
  | arrayOutOfBounds
  | nullPointer
  | stackOverflow
  | runtimeError
  deriving DecidableEq, Repr

namespace Category

def all : List Category :=
  [syntaxError, indentationError, missingSemicolon, undefinedSymbol, typeMismatch, missingReturn,
    compilationError, divisionByZero, arrayOutOfBounds, nullPointer, stackOverflow, runtimeError]

def name : Category → String
  | syntaxError => "SYNTAX_ERROR"
  | indentationError => "INDENTATION_ERROR"
  | missingSemicolon => "MISSING_SEMICOLON"
  | undefinedSymbol => "UNDEFINED_SYMBOL"
  | typeMismatch => "TYPE_MISMATCH"
  | missingReturn => "MISSING_RETURN"
  | compilationError => "COMPILATION_ERROR"
  | divisionByZero => "DIVISION_BY_ZERO"
  | arrayOutOfBounds => "ARRAY_OUT_OF_BOUNDS"
  | nullPointer => "NULL_POINTER"
  | stackOverflow => "STACK_OVERFLOW"
  | runtimeError => "RUNTIME_ERROR"

/-- Whether a compiler reports failures of the kind. -/
def isCompileTime : Category → Bool
  | syntaxError | indentationError | missingSemicolon | undefinedSymbol | typeMismatch
  | missingReturn | compilationError => true
  | _ => false

/-- Whether the kind stands for what is not recognized. -/
def isFallback : Category → Bool
  | compilationError | runtimeError => true
  | _ => false

def toJson (c : Category) : Json.Value := .string c.name

def ofJson : Json.Decoder Category := Json.Decode.variant (all.map fun c => (c.name, c)) none

end Category

/-- A line of code with its neighbours, each with its number in front. -/
structure CodeContext where
  before : List String
  errorLine : String
  after : List String
  deriving DecidableEq, Repr

namespace CodeContext

def toJson (c : CodeContext) : Json.Value :=
  .object [("before", .strings c.before), ("errorLine", .string c.errorLine),
    ("after", .strings c.after)]

def shape : Json.Shape :=
  ⟨"CodeContext",
    [.of "before" (Json.Decode.list Json.Decode.string), .of "errorLine" Json.Decode.string,
      .of "after" (Json.Decode.list Json.Decode.string)]⟩

def ofJson : Json.Decoder CodeContext := fun v => do
  let slots ← shape.openAny v
  return {
    before := ← slots.required "before" (Json.Decode.list Json.Decode.string)
    errorLine := ← slots.required "errorLine" Json.Decode.string
    after := ← slots.required "after" (Json.Decode.list Json.Decode.string) }

end CodeContext

/-- A piece of code with the fault and the same piece without it. -/
structure CodeExample where
  wrong : String
  correct : String
  deriving DecidableEq, Repr

namespace CodeExample

def toJson (e : CodeExample) : Json.Value :=
  .object [("wrong", .string e.wrong), ("correct", .string e.correct)]

def shape : Json.Shape :=
  ⟨"CodeExample", [.of "wrong" Json.Decode.string, .of "correct" Json.Decode.string]⟩

def ofJson : Json.Decoder CodeExample := fun v => do
  let slots ← shape.openAny v
  return {
    wrong := ← slots.required "wrong" Json.Decode.string
    correct := ← slots.required "correct" Json.Decode.string }

end CodeExample

/-- A failure as it is shown to the author of a solution. -/
structure Diagnostic where
  category : Category
  title : String
  description : String
  /-- The line of the solution, counted from one. -/
  lineNumber : Option Nat
  codeContext : Option CodeContext
  suggestions : List String
  sample : Option CodeExample
  /-- Values found in the text of the failure, by ascending names. -/
  details : List (String × String)
  debugTips : List String
  /-- The text of a failure that is not recognized. -/
  rawError : Option String
  deriving DecidableEq, Repr

namespace Diagnostic

/-- A member for a list that is left out when it is empty. -/
def listMember? (key : String) (items : List String) : List (String × Json.Value) :=
  if items.isEmpty then [] else [(key, .strings items)]

def toJson (d : Diagnostic) : Json.Value :=
  .object ([("category", d.category.toJson), ("title", .string d.title),
      ("description", .string d.description)]
    ++ Json.Value.member? "lineNumber" .nat d.lineNumber
    ++ Json.Value.member? "codeContext" CodeContext.toJson d.codeContext
    ++ [("suggestions", .strings d.suggestions)]
    ++ Json.Value.member? "example" CodeExample.toJson d.sample
    ++ (if d.details.isEmpty then []
      else [("details", .object (d.details.map fun (k, v) => (k, .string v)))])
    ++ listMember? "debugTips" d.debugTips
    ++ Json.Value.member? "rawError" .string d.rawError)

def shape : Json.Shape :=
  let texts := Json.Decode.list Json.Decode.string
  ⟨"Diagnostic",
    [.of "category" Category.ofJson, .of "title" Json.Decode.string,
      .of "description" Json.Decode.string,
      .of "lineNumber" (Json.Decode.option Json.Decode.size) true,
      .of "codeContext" (Json.Decode.option CodeContext.ofJson) true [] CodeContext.shape.outline,
      .of "suggestions" texts,
      .of "example" (Json.Decode.option CodeExample.ofJson) true [] CodeExample.shape.outline,
      .of "details" (Json.Decode.map Json.Decode.string) true, .of "debugTips" texts true,
      .of "rawError" (Json.Decode.option Json.Decode.string) true]⟩

def ofJson : Json.Decoder Diagnostic := fun v => do
  let texts := Json.Decode.list Json.Decode.string
  let slots ← shape.openAny v
  return {
    category := ← slots.required "category" Category.ofJson
    title := ← slots.required "title" Json.Decode.string
    description := ← slots.required "description" Json.Decode.string
    lineNumber := ← slots.optional "lineNumber" Json.Decode.size
    codeContext := ← slots.optional "codeContext" CodeContext.ofJson
    suggestions := ← slots.required "suggestions" texts
    sample := ← slots.optional "example" CodeExample.ofJson
    details := ← slots.withDefault "details" [] (Json.Decode.map Json.Decode.string)
    debugTips := ← slots.withDefault "debugTips" [] texts
    rawError := ← slots.optional "rawError" Json.Decode.string }

end Diagnostic

end CodeJudge
