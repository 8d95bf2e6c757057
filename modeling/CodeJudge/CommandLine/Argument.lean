/-!
Arguments: what a word of a command line is by its form alone.
-/
namespace CodeJudge.CommandLine

inductive Argument where
  /-- Two hyphens alone, behind which no word is an option or a command. -/
  | divider
  /-- A long name, and the value behind its equals sign. -/
  | long (name : String) (attached : Option String)
  /-- A letter, and the value that the rest of the word is. -/
  | short (letter : Char) (attached : Option String)
  | plain (text : String)
  deriving DecidableEq, Repr

namespace Argument

/-- What stands behind an equals sign. -/
def afterEquals : List Char → Option String
  | [] => none
  | _ :: cs => some (String.ofList cs)

/-- What follows a letter; an equals sign between them does not count. -/
def afterLetter : List Char → Option String
  | [] => none
  | '=' :: cs => some (String.ofList cs)
  | cs => some (String.ofList cs)

/-- A hyphen alone is a plain word. -/
def ofText (s : String) : Argument :=
  match s.toList with
  | ['-', '-'] => divider
  | '-' :: '-' :: cs =>
    long (String.ofList (cs.takeWhile (· != '='))) (afterEquals (cs.dropWhile (· != '=')))
  | '-' :: c :: cs => short c (afterLetter cs)
  | _ => plain s

end Argument

end CodeJudge.CommandLine
