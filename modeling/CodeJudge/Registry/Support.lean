import CodeJudge.Registry.Basic
/-!
Support: for which base types and targets a registry has strategies that may be used.
-/
namespace CodeJudge

/-- What a registry has for one base type and one target. -/
structure SupportEntry where
  baseType : BaseType
  target : Target
  parsing : Bool
  serialization : Bool
  deriving DecidableEq, Repr

namespace SupportEntry

def isFull (e : SupportEntry) : Bool := e.parsing && e.serialization

def toJson (e : SupportEntry) : Json.Value :=
  .object [("baseType", e.baseType.toJson), ("target", e.target.toJson),
    ("parsing", .bool e.parsing), ("serialization", .bool e.serialization)]

def shape : Json.Shape :=
  ⟨"SupportEntry",
    [.of "baseType" BaseType.ofJson, .of "target" Target.ofJson, .of "parsing" Json.Decode.bool,
      .of "serialization" Json.Decode.bool]⟩

def ofJson : Json.Decoder SupportEntry := fun v => do
  let slots ← shape.openAny v
  return {
    baseType := ← slots.required "baseType" BaseType.ofJson
    target := ← slots.required "target" Target.ofJson
    parsing := ← slots.required "parsing" Json.Decode.bool
    serialization := ← slots.required "serialization" Json.Decode.bool }

end SupportEntry

/-- The entries of all base types and targets. -/
structure SupportMatrix where
  entries : List SupportEntry
  deriving DecidableEq, Repr

namespace SupportMatrix

def ofRegistry (r : Registry) : SupportMatrix :=
  ⟨BaseType.all.flatMap fun b => Target.all.map fun t =>
    ⟨b, t, (r.strategyFor .parsing b t).isOk, (r.strategyFor .serialization b t).isOk⟩⟩

def isSupported (m : SupportMatrix) (b : BaseType) (t : Target) : Bool :=
  m.entries.any fun e => e.baseType == b && e.target == t && e.isFull

/-- The pairs without a strategy for one of the roles. -/
def missing (m : SupportMatrix) : List (BaseType × Target) :=
  (m.entries.filter fun e => !e.isFull).map fun e => (e.baseType, e.target)

def isComplete (m : SupportMatrix) : Bool := m.missing.isEmpty

def toJson (m : SupportMatrix) : Json.Value :=
  .object [("entries", .array (m.entries.map SupportEntry.toJson))]

def shape : Json.Shape :=
  ⟨"SupportMatrix", [.of "entries" (Json.Decode.list SupportEntry.ofJson)]⟩

def ofJson : Json.Decoder SupportMatrix := fun v => do
  let slots ← shape.openAny v
  return { entries := ← slots.required "entries" (Json.Decode.list SupportEntry.ofJson) }

end SupportMatrix

end CodeJudge
