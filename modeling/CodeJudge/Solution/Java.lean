import CodeJudge.Solution
import CodeJudge.Text.Lines
/-!
Java solutions. A program is a single file whose public class is another one, so the imports of a
solution move to the top, its package is dropped, and its class is made not public, or put around
the code if the code has none.
-/
namespace CodeJudge

/-- A Java solution in the form in which a program holds it. -/
structure JavaSource where
  imports : List String
  body : String
  deriving DecidableEq, Repr

namespace JavaSource

open Text (Pattern)

/-- Letters, digits, underscores and points. -/
def dottedName : Pattern := .run (.union .word (.only '.'))

/-- A line that is an import and nothing else. -/
def importLine : Pattern :=
  .all [.textStart, .many .blank, .text "import", .run .blank, dottedName,
    .optional (.text ".*"), .many .blank, .text ";", .many .blank, .textEnd]

/-- A line that names the package and nothing else. -/
def packageLine : Pattern :=
  .all [.textStart, .many .blank, .text "package", .run .blank, dottedName, .many .blank,
    .text ";", .many .blank, .textEnd]

/-- The declaration of a public class at the start of a line, in its parts around `public`. -/
def publicClass : Pattern :=
  .all [.lineStart, .group 1 (.many .blank), .text "public", .run .blank,
    .group 2 (.all [.optional (.both (.text "final") (.run .blank)), .text "class", .run .blank,
      .text "Solution", .wordEdge])]

/-- The code with no public class of that name. -/
def hideClass (code : String) : String :=
  publicClass.replaceAll (fun b => (b.group? 1).getD [] ++ (b.group? 2).getD []) code

/-- The code, inside a class unless it declares one. -/
def enclose (code : String) : String :=
  if Solution.declaresClass code then Text.trimNewlines code
  else "class Solution \x7b\n" ++ Text.trimNewlines code ++ "\n\x7d"

/-- A solution from its code. -/
def ofCode (code : String) : JavaSource :=
  let lines := Text.linesOf code
  let kept := lines.filter fun l => !importLine.occurs l && !packageLine.occurs l
  ⟨(lines.filter importLine.occurs).map Text.trim, enclose (hideClass (Text.joinLines kept))⟩

end JavaSource

end CodeJudge
