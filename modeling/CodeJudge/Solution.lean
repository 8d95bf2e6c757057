import CodeJudge.Text.Pattern
/-!
Solutions: the code that is tested. It may put its function into a class of a fixed name.
-/
namespace CodeJudge.Solution

/-- A declaration of the class, as C++ and Java write it. -/
def classPattern : Text.Pattern :=
  .all [.wordEdge, .either (.text "class") (.text "struct"), .run .blank, .text "Solution",
    .wordEdge]

/-- Whether the code has the text of such a declaration. -/
def declaresClass (code : String) : Bool := classPattern.occurs code

end CodeJudge.Solution
