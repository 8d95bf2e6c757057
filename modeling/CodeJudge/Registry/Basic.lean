import CodeJudge.Strategy.Basic
/-!
Registries: which strategies build and flatten the values of each base type. There is a map for each
of both; a registration puts a strategy into either, in place of any that was there.
-/
namespace CodeJudge

/-- The strategies of one role by base type, in the order of the base types. -/
abbrev StrategyMap := List (BaseType × Strategy)

/-- The map with the strategy of a base type put in, in place of any that it had. -/
def StrategyMap.insert (b : BaseType) (s : Strategy) : StrategyMap → StrategyMap
  | [] => [(b, s)]
  | (c, other) :: rest =>
    if b.rank < c.rank then (b, s) :: (c, other) :: rest
    else if b = c then (b, s) :: rest
    else (c, other) :: insert b s rest

/-- The strategies for either role. -/
structure Registry where
  parsing : StrategyMap
  serialization : StrategyMap

/-- Why a look-up gives no strategy. -/
inductive RegistryError where
  | unknown (baseType : BaseType) (role : Role)
  | unsupported (baseType : BaseType) (target : Target) (role : Role)
  deriving DecidableEq, Repr

def RegistryError.message : RegistryError → String
  | unknown b role =>
    "STRATEGY/no " ++ role.name ++ " strategy registered for base type '" ++ b.name ++ "'"
  | unsupported b t role =>
    "STRATEGY/" ++ role.name ++ " strategy for '" ++ b.name ++ "' does not support target '"
      ++ t.name ++ "'"

/-- A registered strategy as it is listed. -/
structure StrategyEntry where
  baseType : BaseType
  name : String
  deriving DecidableEq, Repr

namespace StrategyEntry

def toJson (e : StrategyEntry) : Json.Value :=
  .object [("baseType", e.baseType.toJson), ("name", .string e.name)]

def shape : Json.Shape :=
  ⟨"StrategyEntry", [.of "baseType" BaseType.ofJson, .of "name" Json.Decode.string]⟩

def ofJson : Json.Decoder StrategyEntry := fun v => do
  let slots ← shape.openAny v
  return {
    baseType := ← slots.required "baseType" BaseType.ofJson
    name := ← slots.required "name" Json.Decode.string }

end StrategyEntry

/-- The strategies of a registry by role. -/
structure StrategyListing where
  parsing : List StrategyEntry
  serialization : List StrategyEntry
  deriving DecidableEq, Repr

namespace StrategyListing

def toJson (l : StrategyListing) : Json.Value :=
  .object [("parsing", .array (l.parsing.map StrategyEntry.toJson)),
    ("serialization", .array (l.serialization.map StrategyEntry.toJson))]

def shape : Json.Shape :=
  ⟨"StrategyListing",
    [.of "parsing" (Json.Decode.list StrategyEntry.ofJson),
      .of "serialization" (Json.Decode.list StrategyEntry.ofJson)]⟩

def ofJson : Json.Decoder StrategyListing := fun v => do
  let slots ← shape.openAny v
  return {
    parsing := ← slots.required "parsing" (Json.Decode.list StrategyEntry.ofJson)
    serialization := ← slots.required "serialization" (Json.Decode.list StrategyEntry.ofJson) }

end StrategyListing

namespace Registry

def empty : Registry := ⟨[], []⟩

/-- The strategies that are registered for a role. -/
def strategies (r : Registry) : Role → StrategyMap
  | .parsing => r.parsing
  | .serialization => r.serialization

/-- Registers strategies for a base type in place of any that it had. -/
def register (r : Registry) (b : BaseType) (parsing serialization : Strategy) : Registry where
  parsing := StrategyMap.insert b parsing r.parsing
  serialization := StrategyMap.insert b serialization r.serialization

/-- Every base type with its own strategies. -/
def standard : Registry :=
  BaseType.all.foldl (fun r b => r.register b (.builtIn b) (.builtIn b)) empty

/-- The strategy of a base type, whatever the target. -/
def strategy (r : Registry) (role : Role) (b : BaseType) : Except RegistryError Strategy :=
  match (r.strategies role).lookup b with
  | some s => .ok s
  | none => .error (.unknown b role)

/-- The strategy of a base type, if it may be used for the target. -/
def strategyFor (r : Registry) (role : Role) (b : BaseType) (t : Target) :
    Except RegistryError Strategy :=
  match r.strategy role b with
  | .error e => .error e
  | .ok s => if s.supports t then .ok s else .error (.unsupported b t role)

/-- What is registered for a role, in the order of the base types. -/
def entries (r : Registry) (role : Role) : List StrategyEntry :=
  (r.strategies role).map fun (b, s) => ⟨b, s.name⟩

def listing (r : Registry) : StrategyListing := ⟨r.entries .parsing, r.entries .serialization⟩

end Registry

end CodeJudge
