import CodeJudge.Diagnostic.Rule
import CodeJudge.Literal.Coercion
/-!
The rules for crashes of running programs, in the order in which they are tried. Crashes look
alike whatever the target.
-/
namespace CodeJudge.Crash

open Text (Pattern)

/-- The characters between a word and its number. -/
def colonOrBlank : Text.CharSet := .union (.only ':') .blank

def indexCapture : Capture :=
  ⟨"index",
    [.all [.anyCase "index", .run colonOrBlank,
        .group 1 (.both (.optional (.text "-")) (.run .digit))],
      .all [.text "__n (which is ", .group 1 (.run .digit), .text ")"],
      .all [.text "[", .group 1 (.run .digit), .text "]"]],
    some "unknown"⟩

def sizeCapture : Capture :=
  ⟨"size",
    [.all [.oneOf [.anyCase "size", .anyCase "length"], .run colonOrBlank,
        .group 1 (.run .digit)],
      .all [.text "size() (which is ", .group 1 (.run .digit), .text ")"]],
    none⟩

/-- The places that an array of the given size has. -/
def validRange (size : Option String) : String :=
  match size.bind fun s => Literal.int64Of? s.toList with
  | some n => if 0 < n then "0 to " ++ Literal.intText (n - 1) else "empty"
  | none => "unknown"

/-- Adds the index, the size and the places there are, and the size to the description. -/
def withBounds (captured : Captured) (d : Diagnostic) : Diagnostic :=
  let size := captured.value? "size"
  { d with
    description :=
      match size with
      | some n => d.description ++ ", but the array only has " ++ n ++ " elements"
      | none => d.description
    details := [("arraySize", size.getD "unknown"),
      ("index", (captured.value? "index").getD "unknown"), ("validRange", validRange size)] }

def divisionByZero : Rule where
  category := .divisionByZero
  trigger := .any [.mentionsAnyCase "division by zero", .mentionsAnyCase "ZeroDivisionError",
    .mentions "/ by zero", .mentions "SIGFPE", .mentions "Floating point exception"]
  title := "Division by Zero"
  description := "Your code tried to divide by zero, which is mathematically undefined"
  suggestions := ["Check if the divisor is zero before dividing",
    "Add validation: if (b != 0) \x7b result = a / b; \x7d", "Handle the zero case separately"]
  debugTips := ["Print the divisor value before division", "Check input validation",
    "Consider edge cases where divisor might be zero"]
  sample := some ⟨"result = a / b;",
    "if (b != 0) \x7b\n    result = a / b;\n\x7d else \x7b\n    // Handle division by zero\n\x7d"⟩

def arrayOutOfBounds : Rule where
  category := .arrayOutOfBounds
  trigger := .any [.mentions "ArrayIndexOutOfBoundsException",
    .mentions "IndexOutOfBoundsException", .mentions "IndexError",
    .mentions "index out of range", .mentions "_M_range_check",
    .mentions "RangeError: Invalid array length"]
  title := "Array Index Out of Bounds"
  description := "You tried to access index \x7bindex\x7d"
  suggestions := ["Check array bounds before accessing: if (i < arr.length)",
    "Fix off-by-one errors in loops: use i < n instead of i <= n",
    "Verify the index variable is correct",
    "Make sure the array has been properly initialized"]
  captures := [indexCapture, sizeCapture]
  sample := some ⟨"for (int i = 0; i <= arr.length; i++) \x7b\n    arr[i] = value;\n\x7d",
    "for (int i = 0; i < arr.length; i++) \x7b\n    arr[i] = value;\n\x7d"⟩
  refine := withBounds

def nullPointer : Rule where
  category := .nullPointer
  trigger := .any [.mentions "NullPointerException", .mentions "null pointer",
    .mentions "SIGSEGV", .mentionsAnyCase "segmentation fault",
    .all [.mentions "AttributeError", .mentions "NoneType"],
    .finds (.all [.text "Cannot ", .either (.text "read") (.text "set"), .text " propert",
      .either (.text "y") (.text "ies"), .text " of ",
      .either (.text "null") (.text "undefined")])]
  title := "Null Pointer Error"
  description := "You tried to use \x7bvar\x7d that doesn't exist (null/None)"
  suggestions := ["Add null check: if (\x7bvar\x7d != null) \x7b ... \x7d",
    "Initialize \x7bvar\x7d before using it",
    "Check if the function returned null unexpectedly", "Verify object creation was successful"]
  captures := [⟨"var",
    [.all [.anyCase "object '", .group 1 (.run .word), .text "'"],
      .all [.text "'", .group 1 (.run .word), .text "'", .anyCase " is none"]],
    some "object"⟩]
  debugTips := ["Add null check before accessing", "Verify initialization before this line",
    "Check if parent function returned null", "Print the variable to see if it's null"]
  sample := some ⟨"result = obj.getValue();",
    "if (obj != null) \x7b\n    result = obj.getValue();\n\x7d else \x7b\n"
      ++ "    // Handle null case\n\x7d"⟩

/-- The characters of a name in a stack trace. -/
def traceChar : Text.CharSet := .union .word (.only '$')

def stackOverflow : Rule where
  category := .stackOverflow
  trigger := .any [.mentions "StackOverflowError", .mentions "stack overflow",
    .mentions "recursion depth exceeded", .mentions "maximum recursion depth",
    .mentions "Maximum call stack size exceeded"]
  title := "Stack Overflow: Infinite Recursion"
  description := "Your recursive function '\x7bfunc\x7d' never stops calling itself"
  suggestions := ["Add or fix the base case in your recursion",
    "Make sure the base case is reachable", "Ensure recursive calls reduce the problem size",
    "Consider using iteration instead of recursion"]
  captures := [⟨"func",
    [.all [.text "line ", .run .digit, .text ", in ", .group 1 (.run .word)],
      .all [.text "at ", .rounds (.both (.run traceChar) (.text ".")),
        .group 1 (.run traceChar), .many .blank, .text "("]],
    some "recursive function"⟩]
  debugTips := ["Add print statements to track recursion depth", "Verify base case is correct",
    "Check that each recursive call gets closer to base case",
    "Add a counter to limit recursion depth while debugging"]
  sample := some ⟨"def fibonacci(n):\n    return fibonacci(n-1) + fibonacci(n-2)",
    "def fibonacci(n):\n    if n <= 1:  # Base case\n        return n\n    return fibonacci(n-1) + "
      ++ "fibonacci(n-2)"⟩

/-- The rules in their order. -/
def rules : List Rule := [divisionByZero, arrayOutOfBounds, nullPointer, stackOverflow]

/-- The rule for everything that no other rule is meant for. -/
def fallback : Rule where
  category := .runtimeError
  trigger := .always
  title := "\x7berror_type\x7d"
  description := "Your code crashed during execution"
  suggestions := ["Check the error message for details", "Add error handling (try-catch)",
    "Verify input values are valid", "Check for edge cases"]
  captures := [⟨"error_type",
    [.group 1 (.either (.both (.run .word) (.text "Error"))
      (.both (.run .word) (.text "Exception")))],
    some "Runtime Error"⟩]
  debugTips := ["Add print statements to track execution",
    "Check variable values before the crash", "Test with smaller inputs",
    "Review the stack trace"]
  keepRaw := true

end CodeJudge.Crash
