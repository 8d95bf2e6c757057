import CodeJudge.Diagnostic.Location
/-!
Messages: the one line that sums up the text of a failure.
-/
namespace CodeJudge.Message

/-- How many characters of a line are shown. -/
def excerptLength : Nat := 100

/-- The beginning of the first line of a text. -/
def firstLine (s : String) : String :=
  String.ofList (((Text.lines s.toList).headD []).take excerptLength)

/-- Where a text says the failure is: after the first line number that follows the word for it. -/
def place (s : String) : String :=
  match Location.wordForm.capture? s with
  | some digits => " on line " ++ digits
  | none => ""

/-- A text that is there and not blank. -/
def shown? (text : Option String) : Option String := text.filter fun s => !Text.isBlankText s

/-- The message for the output of a compiler. -/
def ofCompilation (text : Option String) : String :=
  match shown? text with
  | none => "Compilation failed"
  | some s =>
    if Text.contains s "SyntaxError" then "Syntax Error" ++ place s
    else if Text.contains s "IndentationError" then "Indentation Error" ++ place s
    else if Text.contains s "NameError" then
      "Name Error" ++ place s ++ ": Variable not defined"
    else if Text.contains s "TypeError" then "Type Error" ++ place s
    else firstLine s

/-- The words by which crashes are recognized, in the order in which they are looked for. -/
def crashes : List (String × String) :=
  [("IndexError", "Index Error: List index out of range"),
    ("KeyError", "Key Error: Dictionary key not found"),
    ("AttributeError", "Attribute Error: Object has no such attribute"),
    ("ZeroDivisionError", "Division by Zero Error"),
    ("RecursionError", "Recursion Error: Maximum recursion depth exceeded"),
    ("MemoryError", "Memory Error: Out of memory"),
    ("NullPointerException", "Null Pointer Exception"),
    ("ArrayIndexOutOfBoundsException", "Array Index Out of Bounds")]

/-- The message for the text of a crash. -/
def ofCrash (text : Option String) : String :=
  match shown? text with
  | none => "Runtime error occurred"
  | some s =>
    match crashes.find? fun (word, _) => Text.contains s word with
    | some (_, message) => message
    | none => firstLine s

end CodeJudge.Message
