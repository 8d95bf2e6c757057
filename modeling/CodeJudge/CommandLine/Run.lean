import CodeJudge.CommandLine.Command
import CodeJudge.Program.Generate
import CodeJudge.Record.Reader
import CodeJudge.Registry.Support
import CodeJudge.Report
/-!
Running commands: what a command prints, given the files and the standard input it may read. Files
are read in a fixed order, and the first that cannot be read or understood is the error.
-/
namespace CodeJudge.CommandLine

/-- What a command can read. -/
structure Environment where
  /-- The text of a file, if it can be read. -/
  file? : String → Option String
  standardInput : String

/-- Why a command prints nothing. -/
inductive CommandError where
  | settings (file : String) (error : SettingsError)
  | unreadableFile (file : String)
  | unreadableSource (file : String)
  | invalidJson (file : String)
  | starterCode (error : PlanError)
  | starter (target : Target) (error : PlanError)
  | generation (target : Target) (error : GenerationError)
  | outcomes
  | records (error : RecordsError)
  | nothingToCategorize
  | overflow (error : Overflow)
  deriving Repr

namespace CommandError

/-- What went wrong, from the outermost cause to the innermost. -/
def message : CommandError → String
  | settings file e => "Invalid config " ++ file ++ ": " ++ e.message
  | unreadableFile file => "Unable to read " ++ file ++ ": <io>"
  | unreadableSource file => "Unable to read source " ++ file ++ ": <io>"
  | invalidJson file => "Invalid JSON in " ++ file ++ ": <json>"
  | starterCode e => "Unable to build starter code: " ++ e.message
  | starter t e => "Unable to build " ++ t.name ++ " starter: " ++ e.message
  | generation t e => "Unable to generate " ++ t.name ++ " harness: " ++ e.message
  | outcomes => "Outcomes must be a JSON array of execution outcomes: <json>"
  | records e => e.message
  | nothingToCategorize => "Either --outcomes or --stdout with --tests is required"
  | overflow e => e.message

/-- Whether the program stops, with nothing reported. -/
def stops : CommandError → Bool
  | starterCode e => e.stops
  | starter _ e => e.stops
  | generation _ e => e.stops
  | overflow _ => true
  | _ => false

/-- What the program ends with. -/
def exitCode (e : CommandError) : Nat :=
  if e.stops then 101
  else
    match e with
    | settings .. => 2
    | _ => 1

end CommandError

namespace Environment

/-- The text of a file; a hyphen names the standard input. -/
def text (e : Environment) (name : String) : Except CommandError String :=
  if name = "-" then .ok e.standardInput
  else
    match e.file? name with
    | some s => .ok s
    | none => .error (.unreadableFile name)

/-- The data in a file, of which the outline says what is looked at. -/
def data {α : Type} (e : Environment) (item : Json.Decoder α) (o : Json.Outline) (name : String) :
    Except CommandError α :=
  match e.file? name with
  | none => .error (.unreadableFile name)
  | some s =>
    match Json.decodeText? item o s.toList with
    | some a => .ok a
    | none => .error (.invalidJson name)

def problem (e : Environment) (name : String) : Except CommandError Problem :=
  e.data Problem.ofJson Problem.shape.outline name

def tests (e : Environment) (name : String) : Except CommandError (List TestCase) :=
  e.data (Json.Decode.list TestCase.ofJson) (.items TestCase.shape.outline) name

/-- The settings in a file, or the standard ones. -/
def settings (e : Environment) : Option String → Except CommandError Settings
  | none => .ok .default
  | some name =>
    match e.file? name with
    | none => .error (.settings name (.missingFile name))
    | some s => (Settings.ofYaml s).mapError (.settings name)

end Environment

namespace Command

/-- The program for a solution, or for the code that a solution starts from. -/
def generated (e : Environment) (s : Settings) (t : Target) (problem tests : String)
    (code : Option String) : Except CommandError Program := do
  let p ← e.problem problem
  let cases ← e.tests tests
  let solution ←
    match code with
    | some name => e.text name
    | none => (p.starter t).mapError .starterCode
  (Program.generate .standard s.tolerance t solution p cases).mapError (.generation t)

/-- The outcomes in a text. -/
def outcomesOfText (s : String) : Except CommandError (List ExecutionOutcome) :=
  match Json.decodeText? (Json.Decode.list ExecutionOutcome.ofJson)
      (.items ExecutionOutcome.shape.openOutline) s.toList with
  | some outcomes => .ok outcomes
  | none => .error .outcomes

/-- The outcomes to report: those given, or those that a program printed records of. -/
def outcomesOf (e : Environment) :
    (outcomes stdout tests : Option String) → Except CommandError (List ExecutionOutcome)
  | some name, _, _ => do
    outcomesOfText (← e.text name)
  | none, some name, some tests => do
    let cases ← e.tests tests
    let records ← (TestRecord.ofOutput (← e.text name)).mapError .records
    return (TestRecord.reconcile records cases).map TestRecord.toOutcome
  | _, _, _ => .error .nothingToCategorize

/-- The strategies of a registry and what they support, as data. -/
def describeStrategies (r : Registry) : Json.Value :=
  let matrix := SupportMatrix.ofRegistry r
  .object [("complete", .bool matrix.isComplete), ("strategies", r.listing.toJson),
    ("support", .array (matrix.entries.map SupportEntry.toJson))]

/-- What a command gives under its settings. -/
def result (e : Environment) (s : Settings) : Command → Except CommandError String
  | generate target problem tests code selection => do
    let t := target.getD s.defaultTarget
    return selection.text t (← generated e s t problem tests code)
  | starter target problem => do
    let t := target.getD s.defaultTarget
    let p ← e.problem problem
    (p.starter t).mapError (.starter t)
  | classify stage target input source lineOffset => do
    let raw ← e.text input
    let code ←
      match source with
      | none => .ok none
      | some name =>
        match e.file? name with
        | some s => .ok (some s)
        | none => .error (.unreadableSource name)
    let t := target.getD s.defaultTarget
    let diagnostic ←
      (Diagnostic.classify stage t raw code ⟨s.contextLines, lineOffset⟩).mapError .overflow
    return diagnostic.toJson.toOpenText
  | categorize outcomes stdout tests => do
    return (BatchReport.ofOutcomes (← outcomesOf e outcomes stdout tests)).toJson.toOpenText
  | strategies => return (describeStrategies .standard).sorted.toOpenText

/-- The files that a command may read. -/
def files : Command → List String
  | generate _ problem tests code _ => [problem, tests] ++ code.toList
  | starter _ problem => [problem]
  | classify _ _ input source _ => input :: source.toList
  | categorize outcomes stdout tests => outcomes.toList ++ stdout.toList ++ tests.toList
  | strategies => []

/-- Whether a command may read the standard input. -/
def readsInput : Command → Bool
  | generate _ _ _ code _ => code == some "-"
  | classify _ _ input _ _ => input == "-"
  | categorize outcomes stdout _ => outcomes == some "-" || stdout == some "-"
  | _ => false

end Command

namespace Invocation

/-- What a command line prints: the result without white space at its end, and a line feed. -/
def output (i : Invocation) (e : Environment) : Except CommandError String := do
  let settings ← e.settings i.config
  return Text.trimEnd (← i.command.result e settings) ++ "\n"

/-- The files that a command line may read. -/
def files (i : Invocation) : List String := i.config.toList ++ i.command.files

end Invocation

end CodeJudge.CommandLine
