import CodeJudge.Diagnostic.Compilation
import CodeJudge.Diagnostic.Crash
import CodeJudge.Diagnostic.Location
/-!
Classification: from the text of a failure to a diagnostic. The first rule meant for the text
decides, and a general one stands in if there is none.
-/
namespace CodeJudge

/-- Where a failure happens. -/
inductive Stage where
  | compile
  | runtime
  deriving DecidableEq, Repr

/-- A name that no stage answers to. -/
inductive StageError where
  | unknown (name : String)
  deriving DecidableEq, Repr

def StageError.message : StageError → String
  | unknown name => "STAGE/unknown stage '" ++ name ++ "'"

namespace Stage

def all : List Stage := [compile, runtime]

def name : Stage → String
  | compile => "compile"
  | runtime => "runtime"

/-- Every name that a stage answers to, in small letters. -/
def aliases : List (String × Stage) :=
  [("compile", compile), ("compilation", compile), ("runtime", runtime), ("run", runtime)]

/-- The stage of a name, whatever its letter case and the white space around it. -/
def ofName (s : String) : Except StageError Stage :=
  let name := Text.lowerAscii (Text.trim s)
  match aliases.lookup name with
  | some stage => .ok stage
  | none => .error (.unknown name)

def toJson (s : Stage) : Json.Value := .string s.name

def ofJson : Json.Decoder Stage := Json.Decode.variant (all.map fun s => (s.name, s)) none

/-- The rules that are tried for failures of a stage. -/
def rules (s : Stage) (t : Target) : List Rule :=
  match s with
  | compile => Compilation.rules t
  | runtime => Crash.rules

/-- The rule for failures of a stage that no other rule is meant for. -/
def fallback : Stage → Rule
  | compile => Compilation.fallback
  | runtime => Crash.fallback

/-- The rule that decides. -/
def ruleFor (s : Stage) (t : Target) (raw : String) : Rule :=
  (Rule.first? (s.rules t) raw).getD s.fallback

end Stage

/-- How a diagnostic is made. -/
structure ClassificationOptions where
  /-- How many lines of code are shown on either side of the reported one. -/
  contextLines : Nat
  /-- How many lines of the program come before the solution. -/
  lineOffset : Nat
  deriving DecidableEq, Repr

namespace Diagnostic

/-- The diagnostic for the text of a failure; the code, if it is known, gives its context. -/
def classify (s : Stage) (t : Target) (raw : String) (source : Option String)
    (options : ClassificationOptions) : Except Overflow Diagnostic := do
  let line := Location.find? raw options.lineOffset source
  let diagnostic := (s.ruleFor t raw).build raw line
  let context ← Location.contextOf? source line options.contextLines
  return { diagnostic with codeContext := context }

end Diagnostic

end CodeJudge
