import CodeJudge.CommandLine.Options
/-!
Commands: a command line names one command, with options of the program before the name and those
of the command behind it. Words are read from left to right, and the first fault is the error;
what is missing is reported only after all words of a command are read.
-/
namespace CodeJudge.CommandLine

inductive CommandName where
  | generate
  | starter
  | classify
  | categorize
  | strategies
  deriving DecidableEq, Repr

namespace CommandName

def names : List (String × CommandName) :=
  [("generate", generate), ("starter", starter), ("classify", classify),
    ("categorize", categorize), ("strategies", strategies)]

/-- The options that only the command has. -/
def options : CommandName → List OptionName
  | generate => [.target, .problem, .tests, .code, .part]
  | starter => [.target, .problem]
  | classify => [.stage, .target, .input, .source, .lineOffset]
  | categorize => [.outcomes, .stdout, .tests]
  | strategies => []

end CommandName

/-- What is to be done. A text that is read by its file's name comes from the standard input if
the name is a hyphen; problems, tests, settings and sources always come from files. -/
inductive Command where
  | generate (target : Option Target) (problem tests : String) (code : Option String)
      (selection : Selection)
  | starter (target : Option Target) (problem : String)
  | classify (stage : Stage) (target : Option Target) (input : String) (source : Option String)
      (lineOffset : Nat)
  | categorize (outcomes stdout tests : Option String)
  | strategies
  deriving DecidableEq, Repr

/-- The command of a name with the options that are given. -/
def Command.ofOptions (given : Options) : CommandName → Except UsageError Command
  | .generate => do
    return .generate (given.get? .target) (← given.require .problem) (← given.require .tests)
      (given.get? .code) ((given.get? .part).getD .all)
  | .starter => do
    return .starter (given.get? .target) (← given.require .problem)
  | .classify => do
    return .classify (← given.require .stage) (given.get? .target)
      ((given.get? .input).getD "-") (given.get? .source) ((given.get? .lineOffset).getD 0)
  | .categorize =>
    let outcomes := given.get? .outcomes
    let stdout := given.get? .stdout
    let tests := given.get? .tests
    if outcomes.isSome && stdout.isSome then .error .conflict
    else if stdout.isSome && tests.isNone then .error .missingOption
    else .ok (.categorize outcomes stdout tests)
  | .strategies => .ok .strategies

/-- What a word that begins with a hyphen stands for. -/
inductive Switch where
  | help
  | version
  | option (name : OptionName)
  deriving DecidableEq, Repr

/-- Where in a command line a word stands: before the name of the command or behind it. -/
inductive Level where
  | program
  | command (name : CommandName)
  deriving DecidableEq, Repr

namespace Level

def options : Level → List OptionName
  | program => [.config]
  | command name => name.options ++ [.config]

/-- The long names of a level. -/
def longNames (l : Level) : List (String × Switch) :=
  l.options.map (fun name => (name.long, .option name))
    ++ [("help", .help)] ++ (if l == program then [("version", .version)] else [])

/-- The letters of a level. -/
def letters (l : Level) : List (Char × Switch) :=
  (l.options.filterMap fun name => name.letter?.map (·, .option name))
    ++ [('h', .help)] ++ (if l == program then [('V', .version)] else [])

/-- The command of a name; a command has none below it. -/
def command? : Level → String → Option CommandName
  | program, s => CommandName.names.lookup s
  | command _, _ => none

/-- Whether a word asks for help on the words behind it. -/
def asksForHelp (l : Level) (s : String) : Bool := l == program && s == "help"

/-- The error for a word that is neither an option nor a command. -/
def stray : Level → UsageError
  | program => .unknownCommand
  | command _ => .unknownArgument

/-- The error for a word behind the divider. -/
def strayBehindDivider (l : Level) (s : String) : UsageError :=
  if (l.command? s).isSome || l.asksForHelp s then .unknownArgument else l.stray

end Level

/-- What help on some words gives: at most one command can be asked for. -/
def helpOn : List String → UsageError
  | [] => .help
  | [s] => if (CommandName.names.lookup s).isSome || s == "help" then .help else .unknownCommand
  | _ => .unknownCommand

/-- What is read of a level so far. -/
structure Progress where
  given : Options
  /-- The last option, with its value once there is one, as long as it is not among the others. -/
  pending : Option (OptionName × Option String)

namespace Progress

def start : Progress := ⟨[], none⟩

/-- Whether the next plain word is the value of an option. -/
def awaits (p : Progress) : Bool := p.pending.any fun x => x.2.isNone

/-- The options, the pending one among them. -/
def settle (p : Progress) : Except UsageError Options :=
  match p.pending with
  | none => .ok p.given
  | some (_, none) => .error .invalidValue
  | some (name, some text) => p.given.add name text

/-- The progress behind a switch. -/
def take (p : Progress) (switch : Switch) (attached : Option String) :
    Except UsageError Progress := do
  let given ← p.settle
  match switch, attached with
  | .help, _ => .error .help
  | .version, _ => .error .version
  | .option name, none => return ⟨given, some (name, none)⟩
  | .option name, some text => return ⟨← given.add name text, none⟩

/-- The progress behind a word with a long name. -/
def takeLong (l : Level) (p : Progress) (name : String) (attached : Option String) :
    Except UsageError Progress :=
  match l.longNames.lookup name with
  | none => .error .unknownArgument
  | some (.option option) => p.take (.option option) attached
  | some switch => if attached.isSome then .error .tooManyValues else p.take switch none

/-- The progress behind a word with a letter. -/
def takeShort (l : Level) (p : Progress) (letter : Char) (attached : Option String) :
    Except UsageError Progress :=
  match l.letters.lookup letter with
  | none => .error .unknownArgument
  | some switch => p.take switch attached

end Progress

/-- Reads the words of a level: its options, and the command that ends it with the words behind. -/
def readLevel (l : Level) : Progress → List String →
    Except UsageError (Progress × Option (CommandName × List String))
  | p, [] => .ok (p, none)
  | p, w :: ws =>
    if !p.awaits && l.asksForHelp w then .error (helpOn ws)
    else
      match if p.awaits then none else l.command? w with
      | some name => .ok (p, some (name, ws))
      | none =>
        match Argument.ofText w with
        | .divider =>
          match ws with
          | [] => .ok (p, none)
          | next :: _ => .error (l.strayBehindDivider next)
        | .long name attached =>
          match p.takeLong l name attached with
          | .ok p => readLevel l p ws
          | .error e => .error e
        | .short letter attached =>
          match p.takeShort l letter attached with
          | .ok p => readLevel l p ws
          | .error e => .error e
        | .plain text =>
          match p.pending with
          | some (name, none) => readLevel l { p with pending := some (name, some text) } ws
          | _ => .error l.stray

/-- A command with the file of the settings it runs under. -/
structure Invocation where
  config : Option String
  command : Command
  deriving DecidableEq, Repr

/-- Reads a command line. The settings named behind the command go before those named in front. -/
def Invocation.ofWords (words : List String) : Except UsageError Invocation := do
  match ← readLevel .program .start words with
  | (p, some (name, rest)) =>
    let (q, _) ← readLevel (.command name) .start rest
    let options ← q.settle
    let command ← Command.ofOptions options name
    let general ← p.settle
    return ⟨(options.get? .config).or (general.get? .config), command⟩
  | (p, none) =>
    let general ← p.settle
    .error (if general.isEmpty then .nothingGiven else .missingCommand)

end CodeJudge.CommandLine
