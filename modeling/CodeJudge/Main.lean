import CodeJudge.CommandLine.Run
/-!
The program: reads what a command line names, prints what it gives, and ends with its exit code.
-/
namespace CodeJudge.CommandLine

/-- What the program answers to a command line that it does not run. -/
def UsageError.text : UsageError → String
  | help => "usage: harness [--config FILE] generate|starter|classify|categorize|strategies ..."
  | version => "harness"
  | nothingGiven => "a command is required"
  | missingCommand => "a command is required"
  | unknownCommand => "no such command"
  | unknownArgument => "unexpected argument"
  | tooManyValues => "an option has a value that it does not take"
  | invalidValue => "an option lacks its value or has a wrong one"
  | unreadableValue => "the value of an option cannot be understood"
  | missingOption => "a required option is missing"
  | conflict => "options exclude each other"

/-- Whether it was asked for. -/
def UsageError.isAnswer (e : UsageError) : Bool := e == .help || e == .version

/-- The text of a file, unless it cannot be read. -/
def readFile? (name : String) : IO (Option String) := do
  try return some (← IO.FS.readFile name)
  catch _ => return none

/-- The environment that holds what a command line may read. -/
def readEnvironment (i : Invocation) : IO Environment := do
  let texts ← i.files.mapM fun name => return (name, ← readFile? name)
  let input ← if i.command.readsInput then (← IO.getStdin).readToEnd else pure ""
  return ⟨fun name => (texts.lookup name).join, input⟩

/-- Runs a command line. -/
def run (words : List String) : IO UInt32 := do
  match Invocation.ofWords words with
  | .error e =>
    if e.isAnswer then IO.println e.text; return 0
    IO.eprintln ("error: " ++ e.text)
    return 2
  | .ok i =>
    let preset ← IO.getEnv "HARNESS_CONFIG"
    let i := { i with config := i.config.or preset }
    match i.output (← readEnvironment i) with
    | .ok text => IO.print text; return 0
    | .error e =>
      IO.eprintln ("Error: " ++ e.message)
      return e.exitCode.toUInt32

end CodeJudge.CommandLine

/-- The command line program. -/
def main (words : List String) : IO UInt32 := CodeJudge.CommandLine.run words
