import CodeJudge.Plan.Basic
import CodeJudge.Template.Java
import CodeJudge.Text.Lines
/-!
Java drivers: a method for each test, with its values as literals, and a call of each in order.
-/
namespace CodeJudge.Plan

/-- The statements of the branch in which the call returns. -/
def javaAttempt (p : Plan) (test : TestCase) : List String :=
  p.parseFragments (some test)
    ++ ["Solution _solution = new Solution();",
      "var _result = _solution." ++ p.functionName ++ "(" ++ p.argumentList ++ ");",
      "double _elapsed = (System.nanoTime() - _start) / 1e6;",
      p.output.fragment "_" (some test.output) p.target,
      "boolean _passed = Harness.deepEquals(_actual, _expected);",
      "return Harness.record(_caseId, _passed ? \"PASSED\" : \"FAILED\", _actual, "
        ++ "_expectedJson, _elapsed, null);"]

/-- The statements of the branch in which the call fails. -/
def javaFailure : List String :=
  ["double _elapsed = (System.nanoTime() - _start) / 1e6;", "_e.printStackTrace();",
    "return Harness.record(_caseId, \"ERROR\", null, _expectedJson, _elapsed, _e.toString());"]

/-- The statements for one test. -/
def javaCase (p : Plan) (test : TestCase) : List String :=
  ["String _caseId = " ++ Literal.Java.string test.idText ++ ";",
    "String _expectedJson = " ++ Literal.Java.string test.outputText ++ ";",
    "long _start = System.nanoTime();", "try \x7b",
    Text.indent (Text.joinLines (p.javaAttempt test)) 4, "\x7d catch (Throwable _e) \x7b",
    Text.indent (Text.joinLines javaFailure) 4, "\x7d"]

/-- The name of the method for the test at a place. -/
def javaMethodName (index : Nat) : String := "runCase" ++ toString index

/-- The method for the test at a place. -/
def javaMethod (p : Plan) (index : Nat) (test : TestCase) : String :=
  "private static String " ++ javaMethodName index ++ "() \x7b\n"
    ++ Text.indent (Text.joinLines (p.javaCase test)) 4 ++ "\n\x7d"

/-- The Java driver. -/
def javaDriver (p : Plan) (tests : List TestCase) : String :=
  let numbered := numberedFrom 0 tests
  let methods := numbered.map fun (index, test) => p.javaMethod index test
  let calls := numbered.map fun (index, _) => "records.add(" ++ javaMethodName index ++ "());"
  Template.Java.driver.fill
    (.object [("cases", .string (Text.indent (String.intercalate "\n\n" methods) 4)),
      ("calls", .string (Text.indent (Text.joinLines calls) 8))])

end CodeJudge.Plan
