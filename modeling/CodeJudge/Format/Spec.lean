import CodeJudge.Format.BaseType
/-!
Format specifications: the shape of one parameter or of the result.
-/
namespace CodeJudge

/-- The shape of one value of a signature. -/
structure FormatSpec where
  baseType : BaseType
  /-- The scalar type of the elements, or of the value itself if it is primitive. -/
  elementType : Option String
  strategyName : String
  /-- The place among the parameters. -/
  paramIndex : Option Nat
  paramName : Option String
  /-- For documentation only. -/
  sample : Option Json.Value
  deriving Repr

namespace FormatSpec

/-- A base type with its default strategy and nothing else known. -/
def ofBaseType (b : BaseType) : FormatSpec := ⟨b, none, b.defaultStrategy, none, none, none⟩

def withElement (spec : FormatSpec) (element : String) : FormatSpec :=
  { spec with elementType := some element }

def withParam (spec : FormatSpec) (index : Nat) (name : Option String) : FormatSpec :=
  { spec with paramIndex := some index, paramName := name }

/-- Whether a program needs node structures for the value. -/
def isLinked (spec : FormatSpec) : Bool :=
  spec.baseType == .linkedList || spec.baseType == .tree

def elementOr (spec : FormatSpec) (default : String) : String := spec.elementType.getD default

def toJson (spec : FormatSpec) : Json.Value :=
  .object ([("baseType", spec.baseType.toJson)]
    ++ Json.Value.member? "elementType" .string spec.elementType
    ++ [("strategyName", .string spec.strategyName)]
    ++ Json.Value.member? "paramIndex" .nat spec.paramIndex
    ++ Json.Value.member? "paramName" .string spec.paramName
    ++ Json.Value.member? "example" id spec.sample)

def shape : Json.Shape :=
  ⟨"FormatSpec",
    [.of "baseType" BaseType.ofJson, .of "elementType" (Json.Decode.option Json.Decode.string) true,
      .of "strategyName" Json.Decode.string,
      .of "paramIndex" (Json.Decode.option Json.Decode.size) true,
      .of "paramName" (Json.Decode.option Json.Decode.string) true,
      .of "example" (Json.Decode.option Json.Decode.any) true]⟩

def ofJson : Json.Decoder FormatSpec := fun v => do
  let slots ← shape.openAny v
  return {
    baseType := ← slots.required "baseType" BaseType.ofJson
    elementType := ← slots.optional "elementType" Json.Decode.string
    strategyName := ← slots.required "strategyName" Json.Decode.string
    paramIndex := ← slots.optional "paramIndex" Json.Decode.size
    paramName := ← slots.optional "paramName" Json.Decode.string
    sample := ← slots.optional "example" Json.Decode.any }

end FormatSpec

end CodeJudge
