import CodeJudge.Driver.Cpp
import CodeJudge.Driver.Java
import CodeJudge.Driver.Loop
import CodeJudge.Program
import CodeJudge.Settings
import CodeJudge.Solution.Java
import CodeJudge.Starter
/-!
Generation: from a problem, a solution and tests to a program. A program prints one JSON array
with a record for each test, in the order of the tests.
-/
namespace CodeJudge

/-- Why no program is generated. -/
inductive GenerationError where
  | missingCode
  | plan (error : PlanError)
  /-- The blank lines of a section are too many to be counted. -/
  | overflow (error : Overflow)
  deriving Repr

def GenerationError.message : GenerationError → String
  | missingCode => "CODE/no solution code provided"
  | plan e => e.message
  | overflow e => e.message

/-- Whether the program stops, with nothing reported. -/
def GenerationError.stops : GenerationError → Bool
  | plan e => e.stops
  | overflow _ => true
  | _ => false

namespace Plan

/-- What stands between the pieces of a section. -/
def gap (t : Target) : String := if t == .python then "\n\n" else "\n"

/-- A piece that is there only if some value has the base type. -/
def pieceFor (p : Plan) (b : BaseType) (t : Template) : String :=
  if p.uses b then t.fill (.object []) else ""

/-- The text of a section: a common piece, one for linked lists and one for trees. -/
def sectionText (p : Plan) (common : String) (list tree : Template) : String :=
  String.intercalate (gap p.target)
    [common, p.pieceFor .linkedList list, p.pieceFor .tree tree]

/-- The import lines of a Java program: the common ones and those of the solution that are not
among them, each once. -/
def javaImports (imports : List String) : String :=
  imports.foldl (fun done line =>
    if (Text.linesOf done).any fun l => Text.trim l == line then done else done ++ line ++ "\n")
    (Template.Java.prelude.fill (.object []))

/-- The text of the section of imports and node structures. -/
def headerText (p : Plan) (code : String) : String :=
  match p.target with
  | .python =>
    p.sectionText (Template.Python.prelude.fill (.object [])) Template.Python.listStructure
      Template.Python.treeStructure
  | .javascript =>
    p.sectionText (Template.Javascript.prelude.fill (.object []))
      Template.Javascript.listStructure Template.Javascript.treeStructure
  | .cpp =>
    p.sectionText (Template.Cpp.prelude.fill (.object [])) Template.Cpp.listStructure
      Template.Cpp.treeStructure
  | .java =>
    p.sectionText (javaImports (JavaSource.ofCode code).imports) Template.Java.listStructure
      Template.Java.treeStructure

/-- What the templates of common routines are filled with. -/
def helperData (p : Plan) : Json.Value :=
  .object [("float_tolerance", .string p.toleranceText),
    ("needs_linked_list", .bool (p.uses .linkedList)), ("needs_tree", .bool (p.uses .tree))]

/-- The text of the section of routines that the driver calls. -/
def definitionsText (p : Plan) : String :=
  match p.target with
  | .python =>
    p.sectionText (Template.Python.commonHelpers.fill p.helperData) Template.Python.listHelpers
      Template.Python.treeHelpers
  | .javascript =>
    p.sectionText (Template.Javascript.commonHelpers.fill p.helperData)
      Template.Javascript.listHelpers Template.Javascript.treeHelpers
  | .cpp =>
    p.sectionText (Template.Cpp.commonHelpers.fill p.helperData) Template.Cpp.listHelpers
      Template.Cpp.treeHelpers
  | .java => Template.Java.commonHelpers.fill p.helperData

/-- The solution as the program holds it. -/
def solutionText (p : Plan) (code : String) : String :=
  if p.target == .java then (JavaSource.ofCode code).body else code

def driver (p : Plan) (code : String) (tests : List TestCase) : String :=
  match p.target with
  | .python => p.pythonDriver tests
  | .javascript => p.javascriptDriver tests
  | .cpp => p.cppDriver code tests
  | .java => p.javaDriver tests

/-- The program of a plan; the sections in front of the solution are tidied. -/
def program (p : Plan) (code : String) (tests : List TestCase) : Except Overflow Program := do
  let header ← Text.tidy (p.headerText code)
  let definitions ← Text.tidy p.definitionsText
  return {
    header := header
    definitions := definitions
    solution := p.solutionText code
    driver := p.driver code tests
    skeleton := p.starter }

end Plan

/-- The program for a solution; blank code is refused before anything else is looked at. -/
def Program.generate (r : Registry) (tolerance : Binary64) (t : Target) (code : String)
    (p : Problem) (tests : List TestCase) : Except GenerationError Program :=
  if Text.isBlankText code then .error .missingCode
  else
    match Plan.build t p tests r tolerance with
    | .error e => .error (.plan e)
    | .ok plan => (plan.program code tests).mapError .overflow

/-- The code to begin with for a problem. -/
def Problem.starter (p : Problem) (t : Target) : Except PlanError String :=
  (Plan.build t p [] .standard Settings.defaultTolerance).map Plan.starter

end CodeJudge
