import CodeJudge.Arithmetic
import CodeJudge.Binary64.Reader
import CodeJudge.Diagnostic
import CodeJudge.Text.Lines
import CodeJudge.Text.Pattern
/-!
Locations. A tool reports lines of the whole program; less the lines in front of the solution they
are lines of the solution, and the first that lies inside it is the one that is shown.
-/
namespace CodeJudge.Location

open Text (Pattern)

/-- A line number after the word for it. -/
def wordForm : Pattern := .both (.anyCase "line ") (.group 1 (.run .digit))

/-- The endings of names of source files. -/
def fileEndings : List String := ["java", "cpp", "cc", "cxx", "hpp", "h", "js", "mjs", "py"]

/-- A line number after the name of a source file. -/
def fileForm : Pattern :=
  .all [.text ".", .oneOf (fileEndings.map .text), .text ":", .group 1 (.run .digit)]

/-- The number of 64 bits that a run of digits stands for, if they are ASCII digits. -/
def lineNumber? (digits : List Char) : Option Nat :=
  if !digits.isEmpty && digits.all Char.isDigit && Binary64.natOf digits < UInt64.size then
    some (Binary64.natOf digits)
  else none

/-- The line numbers that a text mentions in one form, from left to right. -/
def mentions (form : Pattern) (raw : String) : List Nat :=
  (form.findAll raw).filterMap fun (_, b) => (b.group? 1).bind lineNumber?

/-- All line numbers that a text mentions, those after the word first. -/
def candidates (raw : String) : List Nat := mentions wordForm raw ++ mentions fileForm raw

/-- Whether a solution, if it is known, has a line of the number. -/
def isWithin (source : Option String) (line : Nat) : Bool :=
  source.all fun s => line ≤ Text.lineCount s

/-- The first line mentioned that is a line of the solution behind `offset` other lines. -/
def find? (raw : String) (offset : Nat) (source : Option String) : Option Nat :=
  (((candidates raw).filter fun line => offset < line).map (· - offset)).find? (isWithin source)

/-- A line with its number, counted from one, in front. -/
def numbered (ls : List String) (index : Nat) : String :=
  toString (index + 1) ++ ": " ++ ls.getD index ""

/-- The lines of a range of places. -/
def numberedRange (ls : List String) (first last : Nat) : List String :=
  (List.range' first (last - first)).map (numbered ls)

/-- The place behind the last of `count` lines that follow a line, wherever the code ends. -/
def placeBehind (index count : Nat) : Except Overflow Nat := do
  addSize (← addSize index count) 1

/-- A line of the code, counted from one, with up to `count` lines on either side. -/
def context? (source : String) (line count : Nat) : Except Overflow (Option CodeContext) := do
  let ls := Text.linesOf source
  if line = 0 ∨ ls.length < line then return none
  let index := line - 1
  let last ← placeBehind index count
  return some {
    before := numberedRange ls (index - count) index
    errorLine := numbered ls index
    after := numberedRange ls (index + 1) (min last ls.length) }

/-- The code around a line, if both are known. -/
def contextOf? (source : Option String) (line : Option Nat) (count : Nat) :
    Except Overflow (Option CodeContext) :=
  match source, line with
  | some code, some n => context? code n count
  | _, _ => .ok none

end CodeJudge.Location
