import CodeJudge.Json.Decode
import CodeJudge.Text.Lines
import CodeJudge.Blake3
/-!
Generated programs, kept in their parts. The text of a program is its header, its definitions, the
solution and the driver with an empty line between them, so that a line of the program can be
traced to a line of the solution.
-/
namespace CodeJudge

structure Program where
  /-- Imports and the structures of nodes. -/
  header : String
  /-- Routines that the driver calls. -/
  definitions : String
  /-- The code that is tested. -/
  solution : String
  driver : String
  /-- What the author of a solution starts from; no part of the text. -/
  skeleton : String
  deriving DecidableEq, Repr

namespace Program

/-- Parts that are not empty, without the line feeds at their ends. -/
def sections (parts : List String) : List String :=
  (parts.filter fun p => !p.isEmpty).map Text.dropTrailingNewlines

/-- The text that is compiled or run. -/
def text (p : Program) : String :=
  String.intercalate "\n\n" (sections [p.header, p.definitions, p.solution, p.driver]) ++ "\n"

/-- The line of the text, counted from one, on which the solution begins. -/
def solutionLine (p : Program) : Nat :=
  let preamble := sections [p.header, p.definitions]
  if preamble.isEmpty then 1
  else (preamble.map Text.lineCount).foldr (· + ·) 0 + preamble.length + 1

/-- The identity of the text. -/
def fingerprint (p : Program) : String := Blake3.hexDigest p.text

/-- A part by its name. -/
def part? (p : Program) (name : String) : Option String :=
  [("header", p.header), ("definition", p.definitions), ("user", p.solution),
    ("driver", p.driver), ("main", p.driver), ("boilerplate", p.skeleton)].lookup name

def toJson (p : Program) : Json.Value :=
  .object [("headerCode", .string p.header), ("definition", .string p.definitions),
    ("userFunction", .string p.solution), ("mainFunction", .string p.driver),
    ("boilerplate", .string p.skeleton)]

def shape : Json.Shape :=
  ⟨"WrapperOutput",
    ["headerCode", "definition", "userFunction", "mainFunction", "boilerplate"].map fun name =>
      .of name Json.Decode.string⟩

def ofJson : Json.Decoder Program := fun v => do
  let slots ← shape.openAny v
  return {
    header := ← slots.required "headerCode" Json.Decode.string
    definitions := ← slots.required "definition" Json.Decode.string
    solution := ← slots.required "userFunction" Json.Decode.string
    driver := ← slots.required "mainFunction" Json.Decode.string
    skeleton := ← slots.required "boilerplate" Json.Decode.string }

end Program

end CodeJudge
