import CodeJudge.Json.Outline
import CodeJudge.Json.Value
import CodeJudge.Binary64.Text
import CodeJudge.Text.Quoted
/-!
Decoding JSON values into data. A structure comes as an object, whose members are looked at in
their order, or as an array of its fields. The first member that does not fit is the error; only
when all fit are missing fields reported, in the order of the structure.
-/
namespace CodeJudge.Json

/-- Why a value does not decode. -/
inductive DecodeError where
  | wrongType (found : Value) (expected : String)
  | wrongInteger (found : Int) (expected : String)
  | manyKeys
  | unknownVariant (name : String) (variants : List String)
  | missingField (name : String)
  | repeatedField (name : String)
  /-- An array that ends at a field it must hold. -/
  | tooShort (length : Nat) (structureName : String) (fields : Nat)
  /-- An array with items after the last field; `shared` tells whether it lies in an object that
  two structures share. -/
  | tooLong (length fields : Nat) (shared : Bool)
  deriving Repr

/-- What a value is, as an error says it. -/
def Value.describe : Value → String
  | .null => "null"
  | .bool true => "boolean `true`"
  | .bool false => "boolean `false`"
  | .number (.int i) => "integer `" ++ toString i ++ "`"
  | .number (.float x) => "floating point `" ++ x.toText .json ++ "`"
  | .string s => "string " ++ Text.quoted s
  | .array _ => "sequence"
  | .object _ => "map"

/-- The names an error offers. -/
def describeVariants : List String → String
  | [] => "there are no variants"
  | [a] => "expected `" ++ a ++ "`"
  | [a, b] => "expected `" ++ a ++ "` or `" ++ b ++ "`"
  | names => "expected one of " ++ String.intercalate ", " (names.map fun n => "`" ++ n ++ "`")

def DecodeError.message : DecodeError → String
  | wrongType found expected => "invalid type: " ++ found.describe ++ ", expected " ++ expected
  | wrongInteger found expected =>
    "invalid value: integer `" ++ toString found ++ "`, expected " ++ expected
  | manyKeys => "invalid value: map, expected map with a single key"
  | unknownVariant name variants =>
    "unknown variant `" ++ name ++ "`, " ++ describeVariants variants
  | missingField name => "missing field `" ++ name ++ "`"
  | repeatedField name => "duplicate field `" ++ name ++ "`"
  | tooShort length name fields =>
    "invalid length " ++ toString length ++ ", expected struct " ++ name ++ " with "
      ++ toString fields ++ (if fields = 1 then " element" else " elements")
  | tooLong length _ false =>
    "invalid length " ++ toString length ++ ", expected fewer elements in array"
  | tooLong length fields true =>
    "invalid length " ++ toString length ++ ", expected " ++ toString fields
      ++ (if fields = 1 then " element" else " elements") ++ " in sequence"

/-- The error as it reads when the value is a member of an object that two structures share. -/
def DecodeError.inShared : DecodeError → DecodeError
  | tooLong length fields _ => tooLong length fields true
  | e => e

/-- A way to decode a value. -/
abbrev Decoder (α : Type) := Value → Except DecodeError α

namespace Decode

/-- Free-form data, in its sorted form. -/
def any : Decoder Value := fun v => .ok v.sorted

def string : Decoder String
  | .string s => .ok s
  | v => .error (.wrongType v "a string")

def bool : Decoder Bool
  | .bool b => .ok b
  | v => .error (.wrongType v "a boolean")

/-- A natural number of 64 bits. -/
def size : Decoder Nat
  | .number (.int i) => if 0 ≤ i then .ok i.toNat else .error (.wrongInteger i "usize")
  | v => .error (.wrongType v "usize")

/-- A number of either kind, taken as floating point. -/
def float : Decoder Binary64
  | .number n => .ok n.toBinary64
  | v => .error (.wrongType v "f64")

/-- `null` or a value. -/
def option {α : Type} (item : Decoder α) : Decoder (Option α)
  | .null => .ok none
  | v => (item v).map some

/-- The items in order; the first that does not decode is the error. -/
def items {α : Type} (item : Decoder α) : List Value → Except DecodeError (List α)
  | [] => .ok []
  | v :: vs => do
    let a ← item v
    let as ← items item vs
    return a :: as

def list {α : Type} (item : Decoder α) : Decoder (List α)
  | .array vs => items item vs
  | v => .error (.wrongType v "a sequence")

def members {α : Type} (item : Decoder α) :
    List (String × Value) → Except DecodeError (List (String × α))
  | [] => .ok []
  | (k, v) :: ms => do
    let a ← item v
    let rest ← members item ms
    return (k, a) :: rest

/-- An object of any keys, in ascending order of the keys. -/
def map {α : Type} (item : Decoder α) : Decoder (List (String × α))
  | .object ms => (members item ms).map sortMembers
  | v => .error (.wrongType v "a map")

/-- The name of a variant: a string, or the only key of an object whose value is `null`. -/
def variantName : Value → Except DecodeError (String × Value)
  | .string s => .ok (s, .null)
  | .object [(k, v)] => .ok (k, v)
  | .object _ => .error .manyKeys
  | v => .error (.wrongType v "string or map")

/-- One of the named variants; another name stands for `other`, if there is one. -/
def variant {α : Type} (names : List (String × α)) (other : Option α) : Decoder α := fun v => do
  let (name, content) ← variantName v
  match names.lookup name <|> other with
  | none => .error (.unknownVariant name (names.map (·.1)))
  | some a =>
    match content with
    | .null => .ok a
    | v => .error (.wrongType v "unit")

end Decode

/-- A field of a structure. -/
structure Field where
  name : String
  /-- Other keys that stand for the field. -/
  aliases : List String
  /-- Whether an array may end before the field. -/
  mayLack : Bool
  /-- What is looked at in the text of the field. -/
  outline : Outline
  check : Decoder Unit

/-- A field that decodes by `item`. -/
def Field.of {α : Type} (name : String) (item : Decoder α) (mayLack : Bool := false)
    (aliases : List String := []) (outline : Outline := .whole) : Field :=
  ⟨name, aliases, mayLack, outline, fun v => (item v).map fun _ => ()⟩

def Field.accepts (f : Field) (key : String) : Bool := f.name == key || f.aliases.contains key

/-- The fields of a structure in order, under its name. -/
structure Shape where
  name : String
  fields : List Field

/-- The values of fields by the names of the fields. -/
abbrev Slots := List (String × Value)

namespace Slots

/-- A field that must be there. -/
def required {α : Type} (slots : Slots) (name : String) (item : Decoder α) :
    Except DecodeError α :=
  match slots.lookup name with
  | some v => item v
  | none => .error (.missingField name)

/-- A field with a value to use when it is not there. -/
def withDefault {α : Type} (slots : Slots) (name : String) (default : α) (item : Decoder α) :
    Except DecodeError α :=
  match slots.lookup name with
  | some v => item v
  | none => .ok default

/-- A field that may be missing or `null`. -/
def optional {α : Type} (slots : Slots) (name : String) (item : Decoder α) :
    Except DecodeError (Option α) :=
  slots.withDefault name none (Decode.option item)

end Slots

namespace Shape

def field? (s : Shape) (key : String) : Option Field := s.fields.find? (·.accepts key)

/-- What is looked at in the text of the structure: its fields. -/
def outline (s : Shape) : Outline :=
  .fields (s.fields.map fun f => (f.name :: f.aliases, f.outline)) false

/-- What is looked at in the text of a structure that keeps the members it does not know. -/
def openOutline (s : Shape) : Outline :=
  .fields (s.fields.map fun f => (f.name :: f.aliases, f.outline)) true

/-- The fields among the members, each checked; a field that comes twice is an error. -/
def ofMembers (s : Shape) (seen : Slots) : List (String × Value) → Except DecodeError Slots
  | [] => .ok seen
  | (key, v) :: rest =>
    match s.field? key with
    | none => ofMembers s seen rest
    | some f =>
      if (seen.lookup f.name).isSome then .error (.repeatedField f.name)
      else
        match f.check v with
        | .error e => .error e
        | .ok _ => ofMembers s ((f.name, v) :: seen) rest

/-- The fields of an array, in order from the field at `position` on. -/
def ofItems (s : Shape) (length position : Nat) : List Field → List Value →
    Except DecodeError Slots
  | [], [] => .ok []
  | [], _ :: _ => .error (.tooLong length position false)
  | f :: fs, [] =>
    if f.mayLack then ofItems s length (position + 1) fs []
    else .error (.tooShort position s.name s.fields.length)
  | f :: fs, v :: vs =>
    match f.check v with
    | .error e => .error e
    | .ok _ => (ofItems s length (position + 1) fs vs).map ((f.name, v) :: ·)

/-- The members that are no field of the structure. -/
def others (s : Shape) (ms : List (String × Value)) : List (String × Value) :=
  ms.filter fun m => (s.field? m.1).isNone

/-- The fields of a structure given as an object only. -/
def openObject (s : Shape) : Value → Except DecodeError (Slots × List (String × Value))
  | .object ms => (s.ofMembers [] ms).map (·, s.others ms)
  | v => .error (.wrongType v ("struct " ++ s.name))

/-- The fields of a structure given as an object or as an array. -/
def openAny (s : Shape) : Decoder Slots
  | .object ms => s.ofMembers [] ms
  | .array vs => s.ofItems vs.length 0 s.fields vs
  | v => .error (.wrongType v ("struct " ++ s.name))

end Shape

end CodeJudge.Json
