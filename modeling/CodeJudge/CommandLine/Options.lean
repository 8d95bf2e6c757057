import CodeJudge.CommandLine.Argument
import CodeJudge.Diagnostic.Classification
import CodeJudge.Json.Reader
import CodeJudge.Program
/-!
Options: the settings that a command line gives by name. Each option has values of its own type,
may be given once, and has one value, in the same word or in the next.
-/
namespace CodeJudge.CommandLine

/-- Why words are nothing to run: they ask for help or for the version, or break a rule. -/
inductive UsageError where
  | help
  | version
  /-- No word at all. -/
  | nothingGiven
  | missingCommand
  | unknownCommand
  | unknownArgument
  /-- A value for what takes none. -/
  | tooManyValues
  /-- An option without its value, or with one that is not among its values. -/
  | invalidValue
  /-- A value that is not the name or the number it should be. -/
  | unreadableValue
  | missingOption
  /-- An option given twice, or two that exclude each other. -/
  | conflict
  deriving DecidableEq, Repr

/-- What is printed of a generated program. -/
inductive Selection where
  | all
  | header
  | definition
  | user
  | driver
  | boilerplate
  /-- All parts with what is known of them, as data. -/
  | json
  deriving DecidableEq, Repr

namespace Selection

def names : List (String × Selection) :=
  [("all", all), ("header", header), ("definition", definition), ("user", user),
    ("driver", driver), ("boilerplate", boilerplate), ("json", json)]

/-- A program as data. -/
def describe (t : Target) (p : Program) : Json.Value :=
  .object [("fingerprint", .string p.fingerprint), ("output", p.toJson.sorted),
    ("target", t.toJson), ("userCodeStartLine", .nat p.solutionLine)]

/-- What is selected of a program for a target. -/
def text (t : Target) (p : Program) : Selection → String
  | all => p.text
  | header => p.header
  | definition => p.definitions
  | user => p.solution
  | driver => p.driver
  | boilerplate => p.skeleton
  | json => (describe t p).toOpenText

end Selection

inductive OptionName where
  /-- The file of the settings. -/
  | config
  | target
  /-- The file of the problem. -/
  | problem
  /-- The file of the tests. -/
  | tests
  /-- The file of the solution. -/
  | code
  | part
  | stage
  /-- The file of the text of a failure. -/
  | input
  /-- The file of the code that failed. -/
  | source
  | lineOffset
  /-- The file of the outcomes. -/
  | outcomes
  /-- The file of what a program printed. -/
  | stdout
  deriving DecidableEq, Repr

namespace OptionName

/-- The name behind two hyphens. -/
def long : OptionName → String
  | config => "config"
  | target => "target"
  | problem => "problem"
  | tests => "tests"
  | code => "code"
  | part => "part"
  | stage => "stage"
  | input => "input"
  | source => "source"
  | lineOffset => "line-offset"
  | outcomes => "outcomes"
  | stdout => "stdout"

/-- The letter behind one hyphen. -/
def letter? : OptionName → Option Char
  | target => some 't'
  | problem => some 'p'
  | code => some 'c'
  | stage => some 's'
  | input => some 'i'
  | _ => none

/-- The type of the values of an option; those not listed have texts. -/
abbrev Value : OptionName → Type
  | target => Target
  | part => Selection
  | stage => Stage
  | lineOffset => Nat
  | _ => String

/-- A file name is not empty. -/
def readFileName (s : String) : Except UsageError String :=
  if s.isEmpty then .error .invalidValue else .ok s

/-- A natural number of 64 bits in decimal digits; a plus sign may come first. -/
def readSize (s : String) : Except UsageError Nat :=
  let digits :=
    match s.toList with
    | '+' :: cs => cs
    | cs => cs
  if !digits.isEmpty && digits.all Char.isDigit && Json.natOfDigits digits < UInt64.size then
    .ok (Json.natOfDigits digits)
  else .error .unreadableValue

/-- The value of an option from its text. -/
def read : (name : OptionName) → String → Except UsageError name.Value
  | config, s => readFileName s
  | target, s => (Target.ofName s).mapError fun _ => .unreadableValue
  | problem, s => readFileName s
  | tests, s => readFileName s
  | code, s => .ok s
  | part, s =>
    match Selection.names.lookup s with
    | some selection => .ok selection
    | none => .error .invalidValue
  | stage, s => (Stage.ofName s).mapError fun _ => .unreadableValue
  | input, s => .ok s
  | source, s => readFileName s
  | lineOffset, s => readSize s
  | outcomes, s => .ok s
  | stdout, s => .ok s

end OptionName

/-- An option with its value. -/
structure GivenOption where
  name : OptionName
  value : name.Value

/-- The options that are given, the last one first. -/
abbrev Options := List GivenOption

namespace Options

def get? (name : OptionName) : Options → Option name.Value
  | [] => none
  | given :: rest => if h : given.name = name then some (h ▸ given.value) else get? name rest

/-- The options with one more, which was not among them. -/
def add (given : Options) (name : OptionName) (text : String) : Except UsageError Options :=
  if (given.get? name).isSome then .error .conflict
  else
    match name.read text with
    | .ok value => .ok (⟨name, value⟩ :: given)
    | .error e => .error e

/-- The value of an option that has to be given. -/
def require (given : Options) (name : OptionName) : Except UsageError name.Value :=
  match given.get? name with
  | some value => .ok value
  | none => .error .missingOption

end Options

end CodeJudge.CommandLine
