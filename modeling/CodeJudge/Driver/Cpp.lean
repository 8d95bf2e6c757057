import CodeJudge.Plan.Basic
import CodeJudge.Solution
import CodeJudge.Template.Cpp
import CodeJudge.Text.Lines
/-!
C++ drivers: a block for each test, with its values as literals. What a test builds is released
on every path through its block: the inputs always, the result where there is one.
-/
namespace CodeJudge

/-- Puts a variable behind those of its routine, unless it is among them. The routines ascend. -/
def groupRelease (grouped : List (String × List String)) (r : Release) :
    List (String × List String) :=
  let names := (grouped.lookup r.routine).getD []
  Json.insertMember r.routine
    (if names.contains r.variableName then names else names ++ [r.variableName]) grouped

/-- One call for each routine, with all its variables. -/
def releaseCalls (releases : List Release) : List String :=
  (releases.foldl groupRelease []).map fun (routine, names) =>
    routine ++ "(\x7b" ++ String.intercalate ", " names ++ "\x7d);"

namespace Plan

/-- The releases that the inputs need. -/
def inputReleases (p : Plan) : List Release :=
  p.params.filterMap fun param => param.parsing.release? p.target param.variableName

/-- The releases that the inputs and the result need. -/
def allReleases (p : Plan) : List Release :=
  p.inputReleases ++ (p.output.serialization.release? p.target "_result").toList

/-- The statements of the branch in which the call returns. -/
def cppAttempt (p : Plan) (test : TestCase) (receiver : String) : List String :=
  ["auto _result = " ++ receiver ++ p.functionName ++ "(" ++ p.argumentList ++ ");",
    "double _elapsed = elapsedMs(_start);",
    p.output.fragment "_" (some test.output) p.target,
    "bool _passed = deepEqual(_actual, _expected);",
    "emitRecord(recordJson(_caseId, _passed ? \"PASSED\" : \"FAILED\", toJson(_actual), "
      ++ "_expectedJson, _elapsed, \"\"));"]
    ++ releaseCalls p.allReleases

/-- The statements of a branch in which the call fails, with the text of the failure. -/
def cppFailure (p : Plan) (failure : String) : List String :=
  ["emitRecord(recordJson(_caseId, \"ERROR\", \"null\", _expectedJson, elapsedMs(_start), "
      ++ failure ++ "));"]
    ++ releaseCalls p.inputReleases

/-- The lines of a branch, one level deeper. -/
def branch (statements : List String) : String := Text.indent (Text.joinLines statements) 4

/-- The statements for one test. -/
def cppCase (p : Plan) (test : TestCase) (receiver : String) : List String :=
  ["const string _caseId = " ++ Literal.Cpp.string test.idText ++ ";",
    "const string _expectedJson = " ++ Literal.Cpp.string test.outputText ++ ";"]
    ++ p.parseFragments (some test)
    ++ ["auto _start = chrono::steady_clock::now();", "try \x7b",
      branch (p.cppAttempt test receiver), "\x7d catch (const exception& _e) \x7b",
      branch (p.cppFailure "_e.what()"), "\x7d catch (...) \x7b",
      branch (p.cppFailure "\"unknown exception\""), "\x7d"]

/-- The block for one test. -/
def cppBlock (p : Plan) (test : TestCase) (receiver : String) : String :=
  "\x7b\n" ++ branch (p.cppCase test receiver) ++ "\n\x7d"

/-- The C++ driver. The function is called on an object if the solution declares its class. -/
def cppDriver (p : Plan) (code : String) (tests : List TestCase) : String :=
  let receiver := if Solution.declaresClass code then "Solution()." else ""
  Template.Cpp.driver.fill
    (.object [("cases", .string (branch (tests.map fun t => p.cppBlock t receiver)))])

end Plan

end CodeJudge
