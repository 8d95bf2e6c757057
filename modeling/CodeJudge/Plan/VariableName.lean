import CodeJudge.Text.Blank
/-!
Variable names. The name of a parameter is kept if every target can use it for a variable, and
otherwise the place of the parameter makes up a name.
-/
namespace CodeJudge.VariableName

/-- Names that a program may not give to a variable. -/
def reserved : List String :=
  ["and", "as", "auto", "bool", "break", "case", "catch", "char", "class", "const", "continue",
    "def", "default", "delete", "do", "double", "else", "enum", "false", "final", "float", "for",
    "function", "if", "import", "in", "int", "is", "let", "long", "new", "None", "not", "null",
    "or", "pass", "return", "static", "string", "struct", "switch", "this", "throw", "true",
    "try", "var", "void", "while", "with", "yield"]

/-- An ASCII letter, an ASCII digit or an underscore. -/
def isNameChar (c : Char) : Bool := c.isAlphanum || c == '_'

/-- A name of letters, digits and underscores that starts with a letter. -/
def isPlain : List Char → Bool
  | [] => false
  | c :: cs => c.isAlpha && cs.all isNameChar

/-- The name that the place of a parameter makes up. -/
def ofIndex (index : Nat) : String := "arg" ++ toString index

/-- The name of the variable for a parameter. -/
def ofParam (name : Option String) (index : Nat) : String :=
  match name with
  | none => ofIndex index
  | some name =>
    let name := Text.trim name
    if isPlain name.toList && !reserved.contains name then name else ofIndex index

end CodeJudge.VariableName
