import CodeJudge.Problem
import CodeJudge.Format.TypeName
import CodeJudge.Json.Printer
/-!
The shapes of a problem. A structured description is read strictly and fails on what it does not
know; type names fail only where their brackets are too deep to be counted. Either way the result is
one specification for each parameter, in order and numbered, and one for the output.
-/
namespace CodeJudge

/-- Why a description gives no shapes. -/
inductive FormatError where
  | unknownBaseType (name : String)
  | undecodable (error : Json.DecodeError)
  /-- The text of a field is not JSON. -/
  | notJson (field : String)
  | notArray (kind : String)
  /-- The places of that many parameters are not each taken once. -/
  | misnumbered (count : Nat)
  /-- The brackets of a list of type names are too deep to be counted. -/
  | overflow (error : Overflow)
  deriving Repr

def FormatError.message : FormatError → String
  | unknownBaseType name => "FORMAT/unknown base type '" ++ name ++ "'"
  | undecodable e => "FORMAT/" ++ e.message
  | notJson field => "FORMAT/" ++ field ++ ": <json>"
  | notArray kind => "FORMAT/inputFormats must be an array, got " ++ kind
  | misnumbered count =>
    "FORMAT/paramIndex values must be 0.." ++ toString count ++ " without gaps or duplicates"
  | overflow e => e.message

/-- Whether the program stops, with nothing reported. -/
def FormatError.stops : FormatError → Bool
  | overflow _ => true
  | _ => false

/-- The kind of a JSON value. -/
def Json.Value.kind : Json.Value → String
  | .null => "null"
  | .bool _ => "boolean"
  | .number _ => "number"
  | .string _ => "string"
  | .array _ => "array"
  | .object _ => "object"

namespace FormatSpec

/-- A structured description of one shape, its base type still a name. -/
structure Described where
  baseTypeName : String
  elementType : Option String
  strategyName : Option String
  paramIndex : Option Nat
  paramName : Option String
  sample : Option Json.Value
  deriving Repr

/-- The fields of a structured description. The strategy goes by several names, and so does the
sample value. -/
def Described.shape : Json.Shape :=
  ⟨"RawFormatSpec",
    [.of "baseType" Json.Decode.string,
      .of "elementType" (Json.Decode.option Json.Decode.string) true,
      .of "strategyName" (Json.Decode.option Json.Decode.string) true
        ["parseStrategy", "serializeStrategy", "strategy"],
      .of "paramIndex" (Json.Decode.option Json.Decode.size) true,
      .of "paramName" (Json.Decode.option Json.Decode.string) true,
      .of "example" (Json.Decode.option Json.Decode.any) true
        ["inputFormatExample", "outputFormatExample"]]⟩

def Described.ofJson : Json.Decoder Described := fun v => do
  let slots ← Described.shape.openAny v
  return {
    baseTypeName := ← slots.required "baseType" Json.Decode.string
    elementType := ← slots.optional "elementType" Json.Decode.string
    strategyName := ← slots.optional "strategyName" Json.Decode.string
    paramIndex := ← slots.optional "paramIndex" Json.Decode.size
    paramName := ← slots.optional "paramName" Json.Decode.string
    sample := ← slots.optional "example" Json.Decode.any }

/-- The shape of a description with a known base type. A blank element type counts as none, and
the base type's own strategy stands in for one that is not named. -/
def Described.toSpec (d : Described) (b : BaseType) : FormatSpec where
  baseType := b
  elementType := d.elementType.filter fun e => !Text.isBlankText e
  strategyName := d.strategyName.getD b.defaultStrategy
  paramIndex := d.paramIndex
  paramName := d.paramName
  sample := d.sample

/-- The shape that a structured description gives. -/
def ofDescribed (v : Json.Value) : Except FormatError FormatSpec :=
  match Described.ofJson v with
  | .error e => .error (.undecodable e)
  | .ok d =>
    match BaseType.ofName? d.baseTypeName with
    | none => .error (.unknownBaseType (Text.trim d.baseTypeName))
    | some b => .ok (d.toSpec b)

/-- Gives a shape the place `index` unless it has one. -/
def placedAt (spec : FormatSpec) (index : Nat) : FormatSpec :=
  { spec with paramIndex := some (spec.paramIndex.getD index) }

/-- Gives a shape a parameter name unless it has one. -/
def namedBy (spec : FormatSpec) (name : Option String) : FormatSpec :=
  { spec with paramName := spec.paramName <|> name }

end FormatSpec

/-- Where the shapes of one side of a signature come from. -/
inductive FormatOrigin where
  | structured (description : Description)
  | typeNames (description : Description)
  | signature
  deriving Repr

def FormatOrigin.of (structured typeNames : Option Description) : FormatOrigin :=
  match structured, typeNames with
  | some d, _ => .structured d
  | none, some d => .typeNames d
  | none, none => .signature

/-- Items with their places, counted from `first`. -/
def numberedFrom {α : Type} (first : Nat) : List α → List (Nat × α)
  | [] => []
  | a :: as => (first, a) :: numberedFrom (first + 1) as

/-- Puts a shape in order of place behind those with the same place or an earlier one. -/
def insertByPlace (spec : FormatSpec) : List FormatSpec → List FormatSpec
  | [] => [spec]
  | other :: rest =>
    if spec.paramIndex.getD 0 < other.paramIndex.getD 0 then spec :: other :: rest
    else other :: insertByPlace spec rest

/-- Shapes in order of their places; shapes with one place keep their order. -/
def sortByPlace (specs : List FormatSpec) : List FormatSpec :=
  specs.foldl (fun done spec => insertByPlace spec done) []

namespace Problem

/-- The shapes of the items of a structured description, each at its own place or else where it
stands. -/
def structuredItems : Nat → List Json.Value → Except FormatError (List FormatSpec)
  | _, [] => .ok []
  | position, v :: vs =>
    match FormatSpec.ofDescribed v with
    | .error e => .error e
    | .ok spec =>
      match structuredItems (position + 1) vs with
      | .error e => .error e
      | .ok specs => .ok (spec.placedAt position :: specs)

/-- The inputs of a structured description: the places have to be those from zero on, each taken
once. -/
def structuredInputs (d : Description) : Except FormatError (List FormatSpec) :=
  match d.decodeStrict? with
  | none => .error (.notJson "inputFormats")
  | some (.array items) =>
    match structuredItems 0 items with
    | .error e => .error e
    | .ok specs =>
      let ordered := sortByPlace specs
      if (numberedFrom 0 ordered).all fun (i, spec) => spec.paramIndex == some i then .ok ordered
      else .error (.misnumbered specs.length)
  | some v => .error (.notArray v.kind)

/-- The shape that an item of a list of type names stands for; what is no name is a scalar named
by its JSON text. -/
def typeNameItem : Json.Value → FormatSpec
  | .string name => TypeName.toSpec name
  | v => TypeName.scalarSpec v.toText

/-- The inputs of a list of type names, given as JSON or as a text with commas. -/
def typeNameInputs (d : Description) : Except FormatError (List FormatSpec) :=
  match d.decode with
  | .array names => .ok (names.map typeNameItem)
  | .string text =>
    match TypeName.splitTopLevel text with
    | .error e => .error (.overflow e)
    | .ok names => .ok (names.map TypeName.toSpec)
  | _ => .ok []

/-- Numbers the shapes of the inputs and names them after the parameters where needed. -/
def completeInputs (p : Problem) (specs : List FormatSpec) : List FormatSpec :=
  (numberedFrom 0 specs).map fun (i, spec) => (spec.placedAt i).namedBy (p.paramName? i)

/-- One shape for each parameter, in order. -/
def inputSpecs (p : Problem) : Except FormatError (List FormatSpec) :=
  match FormatOrigin.of p.inputFormats p.inputType with
  | .structured d => (structuredInputs d).map p.completeInputs
  | .typeNames d => (typeNameInputs d).map p.completeInputs
  | .signature => .ok (p.completeInputs (p.params.map fun q => TypeName.toSpec q.typeName))

/-- The output that a type name describes, or a list of them by its first; anything else is a
scalar of which nothing is known. -/
def typeNameOutput (d : Description) : FormatSpec :=
  match d.decode with
  | .string name => TypeName.toSpec name
  | .array (.string name :: _) => TypeName.toSpec name
  | _ => .ofBaseType .primitive

/-- The shape of the output. -/
def outputSpec (p : Problem) : Except FormatError FormatSpec :=
  match FormatOrigin.of p.outputFormat p.outputType with
  | .structured d =>
    match d.decodeStrict? with
    | none => .error (.notJson "outputFormat")
    | some v => FormatSpec.ofDescribed v
  | .typeNames d => .ok (typeNameOutput d)
  | .signature =>
    .ok (match p.returnType with
      | some name => TypeName.toSpec name
      | none => .ofBaseType .primitive)

end Problem

/-- The shapes of a whole signature. -/
structure Formats where
  inputs : List FormatSpec
  output : FormatSpec
  deriving Repr

namespace Formats

/-- The shapes of a problem; a fault of the inputs is found before one of the output. -/
def ofProblem (p : Problem) : Except FormatError Formats :=
  match p.inputSpecs with
  | .error e => .error e
  | .ok inputs =>
    match p.outputSpec with
    | .error e => .error e
    | .ok output => .ok ⟨inputs, output⟩

/-- Every shape, the inputs first. -/
def all (f : Formats) : List FormatSpec := f.inputs ++ [f.output]

def uses (f : Formats) (b : BaseType) : Bool := f.all.any fun spec => spec.baseType == b

end Formats

end CodeJudge
