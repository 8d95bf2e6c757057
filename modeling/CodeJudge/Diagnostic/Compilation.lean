import CodeJudge.Diagnostic.Rule
import CodeJudge.Target
/-!
The rules for failures that compilers report, for each target in the order in which they are
tried.
-/
namespace CodeJudge.Compilation

open Text (Pattern)

/-- A capture that is `unknown` when nothing is found. -/
def capture (name : String) (patterns : List Pattern) : Capture := ⟨name, patterns, some "unknown"⟩

def pythonRules : List Rule :=
  [{ category := .indentationError
     trigger := .mentions "IndentationError"
     title := "Indentation Error"
     lineInTitle := true
     description := "Inconsistent or incorrect indentation"
     suggestions := ["Use consistent indentation (4 spaces recommended)",
       "Don't mix tabs and spaces", "Check that code blocks are properly indented"]
     sample := some ⟨"def foo():\nprint(\"hello\")", "def foo():\n    print(\"hello\")"⟩ },
   { category := .syntaxError
     trigger := .mentions "SyntaxError"
     title := "Syntax Error"
     lineInTitle := true
     description := "Your Python code has a syntax error"
     suggestions := ["Check for missing colons (:) at the end of if/for/while/def statements",
       "Verify proper indentation (Python is indent-sensitive)",
       "Look for unmatched parentheses, brackets, or quotes"]
     sample := some ⟨"if x > 5\n    print(x)", "if x > 5:\n    print(x)"⟩ },
   { category := .undefinedSymbol
     trigger := .mentions "NameError"
     title := "Undefined '\x7bsymbol\x7d'"
     description := "Variable '\x7bsymbol\x7d' is used but not defined"
     suggestions := ["Check for typos in variable names",
       "Ensure the variable is declared before use", "Check variable scope"]
     captures := [capture "symbol"
       [.all [.text "NameError: name '", .group 1 (.run .word), .text "' is not defined"]]] }]

/-- A reference to a name that is not there, with the name as a group. -/
def missingReference : Pattern :=
  .all [.text "ReferenceError: ", .group 1 (.run (.outside .blank)), .text " is not defined"]

def javascriptRules : List Rule :=
  [{ category := .syntaxError
     trigger := .any [.mentions "SyntaxError", .mentions "Unexpected token"]
     title := "Syntax Error"
     lineInTitle := true
     description := "Unexpected token in your JavaScript code"
     suggestions := ["Check for missing semicolons",
       "Verify brackets and parentheses are balanced", "Look for typos in keywords"] },
   { category := .undefinedSymbol
     trigger := .finds missingReference
     title := "Undefined '\x7bsymbol\x7d'"
     description := "Variable '\x7bsymbol\x7d' is not defined"
     suggestions := ["Declare the variable with let, const, or var", "Check for typos"]
     captures := [capture "symbol" [missingReference]] }]

/-- The characters of a Java type. -/
def javaTypeChar : Text.CharSet := .union .word (.oneOf ['[', ']', '<', '>'])

/-- The expected type of a Java mismatch, in the older and in the newer wording. -/
def javaExpected : List Pattern :=
  [.all [.text "required:", .run .blank, .group 1 (.run javaTypeChar), .many .any,
      .text "found:"],
    .both (.text "cannot be converted to ") (.group 1 (.run javaTypeChar))]

/-- The type found in a Java mismatch, in the older and in the newer wording. -/
def javaFound : List Pattern :=
  [.all [.text "required:", .many .any, .text "found:", .run .blank,
      .group 1 (.run javaTypeChar)],
    .all [.text "incompatible types: ", .group 1 (.run javaTypeChar),
      .text " cannot be converted"]]

def javaRules : List Rule :=
  [{ category := .missingSemicolon
     trigger := .mentions "';' expected"
     title := "Missing Semicolon"
     lineInTitle := true
     description := "You forgot a semicolon at the end of this line"
     suggestions := ["Add a semicolon (;) at the end of the statement",
       "Every Java statement must end with a semicolon"]
     sample := some ⟨"int x = 5", "int x = 5;"⟩ },
   { category := .undefinedSymbol
     trigger := .mentions "cannot find symbol"
     title := "Undefined \x7bsymbol\x7d"
     description := "You're using '\x7bsymbol\x7d' but it hasn't been declared"
     suggestions := ["Declare '\x7bsymbol\x7d' before using it", "Check for typos in the name",
       "Make sure the variable/method is in scope"]
     captures := [capture "symbol"
       [.all [.text "symbol:", .run .blank,
         .oneOf [.text "variable", .text "method", .text "class"], .run .blank,
         .group 1 (.run .word)]]]
     sample := some ⟨"result = count + 1;", "int count = 0;\nresult = count + 1;"⟩ },
   { category := .typeMismatch
     trigger := .mentions "incompatible types"
     title := "Type Mismatch"
     lineInTitle := true
     description := "Expected \x7bexpected\x7d, but got \x7bfound\x7d"
     suggestions := ["Convert \x7bfound\x7d to \x7bexpected\x7d",
       "Check the variable type declaration", "Use appropriate type casting if needed"]
     captures := [capture "expected" javaExpected, capture "found" javaFound] },
   { category := .missingReturn
     trigger := .mentions "missing return statement"
     title := "Missing Return Statement"
     description := "Your function should return a value, but some paths don't"
     suggestions := ["Add a return statement in all code paths",
       "Make sure every branch returns a value",
       "Check if-else statements have returns in both branches"] },
   { category := .syntaxError
     trigger := .any [.mentions "illegal start of", .mentions "reached end of file while parsing",
       .mentions "class, interface, enum, or record expected"]
     title := "Syntax Error"
     lineInTitle := true
     description := "Your Java code has a syntax error"
     suggestions := ["Check that every opening brace has a matching closing brace",
       "Make sure statements are inside a method",
       "Look for a stray or missing parenthesis"] }]

/-- An opening quote, straight or curved. -/
def openingQuote : Pattern := .one (.oneOf ['\'', '‘'])

/-- A closing quote, straight or curved. -/
def closingQuote : Pattern := .one (.oneOf ['\'', '’'])

/-- What stands between two quotes. -/
def unquoted : Pattern := .run (.outside (.oneOf ['\'', '’']))

/-- The beginning of a message about a C++ conversion, up to the first type. -/
def cannotConvert : Pattern := .both (.text "cannot convert ") openingQuote

def cppRules : List Rule :=
  [{ category := .missingSemicolon
     trigger := .mentions "expected ';'"
     title := "Missing Semicolon"
     lineInTitle := true
     description := "You forgot a semicolon at the end of this line"
     suggestions := ["Add a semicolon (;) at the end of the statement",
       "Every C++ statement must end with a semicolon"]
     sample := some ⟨"int x = 5", "int x = 5;"⟩ },
   { category := .undefinedSymbol
     trigger := .any [.mentions "was not declared", .mentions "undeclared identifier"]
     title := "Undefined '\x7bsymbol\x7d'"
     description := "'\x7bsymbol\x7d' was not declared in this scope"
     suggestions := ["Declare '\x7bsymbol\x7d' before using it", "Check for typos",
       "Include necessary header files"]
     captures := [capture "symbol"
       [.all [openingQuote, .group 1 (.run .word), closingQuote]]] },
   { category := .typeMismatch
     trigger := .finds (.all [cannotConvert, unquoted, closingQuote, .text " to"])
     title := "Type Mismatch"
     lineInTitle := true
     description := "Expected \x7bexpected\x7d, but got \x7bfound\x7d"
     suggestions := ["Convert \x7bfound\x7d to \x7bexpected\x7d",
       "Check the declared return and parameter types",
       "Use an explicit cast if the conversion is intended"]
     captures := [capture "found" [.all [cannotConvert, .group 1 unquoted, closingQuote]],
       capture "expected"
         [.all [cannotConvert, unquoted, closingQuote, .text " to ", openingQuote,
           .group 1 unquoted, closingQuote]]] },
   { category := .missingReturn
     trigger := .mentions "no return statement in function returning non-void"
     title := "Missing Return Statement"
     description := "Your function should return a value, but some paths don't"
     suggestions := ["Add a return statement in all code paths",
       "Make sure every branch returns a value"] }]

/-- The rules for a target. -/
def rules : Target → List Rule
  | .python => pythonRules
  | .javascript => javascriptRules
  | .cpp => cppRules
  | .java => javaRules

/-- The rule for everything that no other rule is meant for. -/
def fallback : Rule where
  category := .compilationError
  trigger := .always
  title := "Compilation Error"
  lineInTitle := true
  description := "Your code failed to compile"
  suggestions := ["Check the error message for details", "Verify your syntax is correct",
    "Look for typos or missing symbols"]
  keepRaw := true

end CodeJudge.Compilation
