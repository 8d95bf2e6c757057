import CodeJudge.Plan.VariableName
import CodeJudge.Problem.Formats
import CodeJudge.Registry.Basic
import CodeJudge.Strategy.Fragment
import CodeJudge.TestCase
/-!
Plans. Before any text of a program is written, everything that may fail is done: the shapes are
found, the inputs of each test are counted, a scalar type is fixed for each parameter over all
tests, and the strategies are looked up.
-/
namespace CodeJudge

/-- A parameter as a program handles it. -/
structure PlannedParam where
  spec : FormatSpec
  variableName : String
  scalar : Scalar
  parsing : Strategy
  deriving Repr

/-- The result as a program handles it. -/
structure PlannedOutput where
  spec : FormatSpec
  scalar : Scalar
  serialization : Strategy
  /-- Gives the native type of the result. -/
  parsing : Strategy
  deriving Repr

/-- What a program for one target is written from. -/
structure Plan where
  target : Target
  functionName : String
  params : List PlannedParam
  output : PlannedOutput
  /-- How far two floating-point results may lie apart. -/
  tolerance : Binary64
  deriving Repr

/-- Why there is no plan. -/
inductive PlanError where
  | format (error : FormatError)
  | strategy (error : RegistryError)
  /-- The signature has another number of parameters than there are shapes. -/
  | signatureArity (found expected : Nat)
  /-- A test has another number of inputs than there are shapes. -/
  | testArity (test : TestCase) (expected : Nat)
  deriving Repr

/-- How a count that is not the expected one is reported. -/
def arityMessage (subject : String) (found expected : Nat) : String :=
  "ARITY/test case " ++ subject ++ " has " ++ toString found ++ " inputs, expected "
    ++ toString expected

def PlanError.message : PlanError → String
  | format e => e.message
  | strategy e => e.message
  | signatureArity found expected => arityMessage "signature" found expected
  | testArity test expected => arityMessage test.idText test.input.length expected

/-- Whether the program stops, with nothing reported. -/
def PlanError.stops : PlanError → Bool
  | format e => e.stops
  | _ => false

namespace PlannedParam

/-- The type of the parameter in a signature. -/
def nativeType (p : PlannedParam) (t : Target) : String := p.parsing.shape.nativeType p.scalar t

/-- The place where the parameter is built. -/
def site (p : PlannedParam) (index : Nat) (value : Option Json.Value) : ParseSite :=
  ⟨p.variableName, index, value, p.scalar⟩

/-- The statement that builds the parameter. -/
def fragment (p : PlannedParam) (index : Nat) (value : Option Json.Value) (t : Target) : String :=
  p.parsing.shape.parseFragment (p.site index value) t

end PlannedParam

namespace PlannedOutput

/-- The type of the result in a signature. -/
def nativeType (o : PlannedOutput) (t : Target) : String := o.parsing.shape.nativeType o.scalar t

/-- The statements that flatten the result; the variables have names with a common beginning. -/
def fragment (o : PlannedOutput) (lead : String) (value : Option Json.Value) (t : Target) :
    String :=
  o.serialization.shape.serializeFragment
    ⟨lead ++ "result", lead ++ "actual", lead ++ "expected", value, o.scalar⟩ t

end PlannedOutput

namespace Plan

/-- The samples of one parameter: what the tests have at its place. -/
def samplesAt (tests : List TestCase) (index : Nat) : List Json.Value :=
  tests.filterMap fun t => t.input[index]?

/-- The parameters in order, from the one at `index` on. -/
def planParams (r : Registry) (t : Target) (tests : List TestCase) :
    Nat → List FormatSpec → Except PlanError (List PlannedParam)
  | _, [] => .ok []
  | index, spec :: specs =>
    match r.strategyFor .parsing spec.baseType t with
    | .error e => .error (.strategy e)
    | .ok parsing =>
      match planParams r t tests (index + 1) specs with
      | .error e => .error e
      | .ok rest =>
        .ok (⟨spec, VariableName.ofParam spec.paramName index,
          .resolve spec.elementType (samplesAt tests index), parsing⟩ :: rest)

/-- The result; its serialization is looked up first. -/
def planOutput (r : Registry) (t : Target) (tests : List TestCase) (spec : FormatSpec) :
    Except PlanError PlannedOutput :=
  match r.strategyFor .serialization spec.baseType t with
  | .error e => .error (.strategy e)
  | .ok serialization =>
    match r.strategyFor .parsing spec.baseType t with
    | .error e => .error (.strategy e)
    | .ok parsing =>
      .ok ⟨spec, .resolve spec.elementType (tests.map (·.output)), serialization, parsing⟩

/-- The first fault in the numbers of parameters and inputs, if there is one. -/
def arityFault? (p : Problem) (tests : List TestCase) (arity : Nat) : Option PlanError :=
  if !p.params.isEmpty && p.params.length != arity then
    some (.signatureArity p.params.length arity)
  else (tests.find? fun test => test.input.length != arity).map (PlanError.testArity · arity)

/-- The plan for a problem and its tests. Of several faults one in the shapes is reported first,
then one in the numbers of inputs, then the first missing strategy. -/
def build (t : Target) (p : Problem) (tests : List TestCase) (r : Registry)
    (tolerance : Binary64) : Except PlanError Plan :=
  match Formats.ofProblem p with
  | .error e => .error (.format e)
  | .ok formats =>
    match arityFault? p tests formats.inputs.length with
    | some e => .error e
    | none =>
      match planParams r t tests 0 formats.inputs with
      | .error e => .error e
      | .ok params =>
        match planOutput r t tests formats.output with
        | .error e => .error e
        | .ok output => .ok ⟨t, p.functionName, params, output, tolerance⟩

/-- Every shape of the plan, those of the parameters first. -/
def specs (p : Plan) : List FormatSpec := p.params.map (·.spec) ++ [p.output.spec]

/-- Whether some parameter or the result has the base type. -/
def uses (p : Plan) (b : BaseType) : Bool := p.specs.any fun spec => spec.baseType == b

/-- The tolerance as a literal that every target accepts. -/
def toleranceText (p : Plan) : String := p.tolerance.toText .literal

/-- The names of the variables in order, with commas between them. -/
def argumentList (p : Plan) : String :=
  String.intercalate ", " (p.params.map (·.variableName))

/-- The parameters of the signature as types and names. -/
def nativeParams (p : Plan) : List (String × String) :=
  p.params.map fun param => (param.nativeType p.target, param.variableName)

def nativeReturn (p : Plan) : String := p.output.nativeType p.target

/-- The statements that build the parameters from the inputs of one test, if it is known when the
program is written. -/
def parseFragments (p : Plan) (test : Option TestCase) : List String :=
  (numberedFrom 0 p.params).map fun (index, param) =>
    param.fragment index (test.bind fun t => t.input[index]?) p.target

end Plan

end CodeJudge
