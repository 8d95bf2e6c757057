import CodeJudge.Plan.Basic
import CodeJudge.Template.Javascript
import CodeJudge.Template.Python
import CodeJudge.Text.Lines
/-!
Drivers that read the tests at run time: a list of the tests as JSON and one loop over it.
-/
namespace CodeJudge.Plan

/-- What a loop needs of the plan, with the statements indented by `width`. -/
def loopData (p : Plan) (lead : String) (width : Nat) : List (String × Json.Value) :=
  [("function_name", .string p.functionName),
    ("build_args", .string (Text.indent (Text.joinLines (p.parseFragments none)) width)),
    ("arg_list", .string p.argumentList),
    ("flatten", .string (Text.indent (p.output.fragment lead none p.target) width))]

/-- The Python driver. The tests are a string literal, whose escapes are those of JSON. -/
def pythonDriver (p : Plan) (tests : List TestCase) : String :=
  let literal := String.ofList (Json.writeString (testCasesText tests))
  Template.Python.driver.fill
    (.object (("test_cases_literal", .string literal) :: p.loopData "_" 4))

/-- The JavaScript driver. The tests stand in the program as they are. -/
def javascriptDriver (p : Plan) (tests : List TestCase) : String :=
  Template.Javascript.driver.fill
    (.object (("test_cases_json", .string (testCasesText tests)) :: p.loopData "__" 2))

end CodeJudge.Plan
