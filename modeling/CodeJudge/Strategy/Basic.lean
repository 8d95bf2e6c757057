import CodeJudge.Target
import CodeJudge.Format.BaseType
/-!
Strategies. A strategy says how a program builds a native value from a flat test value, or how it
flattens a native result. It has a name, the shape whose code it writes and the targets for which
it may be used.
-/
namespace CodeJudge

/-- What a strategy is used for. -/
inductive Role where
  | parsing
  | serialization
  deriving DecidableEq, Repr

def Role.name : Role → String
  | parsing => "parsing"
  | serialization => "serialization"

/-- The code for the values of one shape, for some of the targets. -/
structure Strategy where
  name : String
  shape : BaseType
  targets : List Target
  deriving DecidableEq, Repr

namespace Strategy

/-- The strategy for a shape with every target, under the name that the shape's specs give it. -/
def builtIn (b : BaseType) : Strategy := ⟨b.defaultStrategy, b, Target.all⟩

def supports (s : Strategy) (t : Target) : Bool := s.targets.contains t

end Strategy

/-- A variable that a program has to release, and the routine that does it. -/
structure Release where
  routine : String
  variableName : String
  deriving DecidableEq, Repr

/-- The release of a variable of a shape, where the target wants one. -/
def Strategy.release? (s : Strategy) (t : Target) (variableName : String) : Option Release :=
  if t.managesMemory then
    match s.shape with
    | .linkedList => some ⟨"freeLinkedLists", variableName⟩
    | .tree => some ⟨"freeTrees", variableName⟩
    | _ => none
  else none

end CodeJudge
