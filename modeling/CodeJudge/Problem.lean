import CodeJudge.Format.Spec
import CodeJudge.Json.Reader
/-!
Problems: the signature that a solution has to implement, and the ways its shapes are described.
-/
namespace CodeJudge

/-- A description of shapes as its author gave it: JSON in place, or a text that may hold JSON. -/
inductive Description where
  | encoded (text : String)
  | inline (value : Json.Value)
  deriving Repr

namespace Description

/-- The described value; a text that is not JSON stands for itself. -/
def decode : Description → Json.Value
  | inline v => v
  | encoded text => (Json.Value.parse? text).getD (.string text)

/-- The described value, unless it is a text that is not JSON. -/
def decodeStrict? : Description → Option Json.Value
  | inline v => some v
  | encoded text => Json.Value.parse? text

def isEncoded : Description → Bool
  | encoded _ => true
  | inline _ => false

def toJson : Description → Json.Value
  | encoded text => .string text
  | inline v => v

def ofJson : Json.Decoder Description
  | .string text => .ok (.encoded text)
  | v => .ok (.inline v.sorted)

end Description

/-- A named parameter. -/
structure Param where
  name : String
  typeName : String
  deriving DecidableEq, Repr

namespace Param

def toJson (p : Param) : Json.Value :=
  .object [("name", .string p.name), ("type", .string p.typeName)]

def shape : Json.Shape :=
  ⟨"Param", [.of "name" Json.Decode.string, .of "type" Json.Decode.string true]⟩

def ofJson : Json.Decoder Param := fun v => do
  let slots ← shape.openAny v
  return {
    name := ← slots.required "name" Json.Decode.string
    typeName := ← slots.withDefault "type" "" Json.Decode.string }

end Param

/-- The function that a solution has to implement. For inputs and output alike the structured
description, if there is one, goes before the list of type names. -/
structure Problem where
  functionName : String
  returnType : Option String
  params : List Param
  inputFormats : Option Description
  outputFormat : Option Description
  inputType : Option Description
  outputType : Option Description
  deriving Repr

namespace Problem

/-- A function without parameters, of which nothing but the name is known. -/
def named (functionName : String) : Problem := ⟨functionName, none, [], none, none, none, none⟩

def withParam (p : Problem) (name typeName : String) : Problem :=
  { p with params := p.params ++ [⟨name, typeName⟩] }

def withReturn (p : Problem) (typeName : String) : Problem :=
  { p with returnType := some typeName }

/-- Describes the shapes by the type names of the signature. -/
def describedBySignature (p : Problem) : Problem :=
  { p with
    inputType := some (.inline (.array (p.params.map fun q => .string q.typeName)))
    outputType := p.returnType.map fun r => .inline (.string r) }

/-- The name of the parameter at a place of the signature. -/
def paramName? (p : Problem) (index : Nat) : Option String := p.params[index]?.map (·.name)

def toJson (p : Problem) : Json.Value :=
  .object ([("functionName", .string p.functionName)]
    ++ Json.Value.member? "returnType" .string p.returnType
    ++ [("params", .array (p.params.map Param.toJson))]
    ++ Json.Value.member? "inputFormats" Description.toJson p.inputFormats
    ++ Json.Value.member? "outputFormat" Description.toJson p.outputFormat
    ++ Json.Value.member? "inputType" Description.toJson p.inputType
    ++ Json.Value.member? "outputType" Description.toJson p.outputType)

def shape : Json.Shape :=
  let description := Json.Decode.option Description.ofJson
  ⟨"ProblemDescriptor",
    [.of "functionName" Json.Decode.string,
      .of "returnType" (Json.Decode.option Json.Decode.string) true,
      .of "params" (Json.Decode.list Param.ofJson) true [] (.items Param.shape.outline),
      .of "inputFormats" description true, .of "outputFormat" description true,
      .of "inputType" description true, .of "outputType" description true]⟩

def ofJson : Json.Decoder Problem := fun v => do
  let slots ← shape.openAny v
  return {
    functionName := ← slots.required "functionName" Json.Decode.string
    returnType := ← slots.optional "returnType" Json.Decode.string
    params := ← slots.withDefault "params" [] (Json.Decode.list Param.ofJson)
    inputFormats := ← slots.optional "inputFormats" Description.ofJson
    outputFormat := ← slots.optional "outputFormat" Description.ofJson
    inputType := ← slots.optional "inputType" Description.ofJson
    outputType := ← slots.optional "outputType" Description.ofJson }

end Problem

end CodeJudge
