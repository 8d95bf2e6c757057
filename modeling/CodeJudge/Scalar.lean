import CodeJudge.Arithmetic
import CodeJudge.Json.Decode
import CodeJudge.Text.Blank
/-!
Scalar types. The scalar type of a parameter is the one its element type names, or else the one
that all of its sample values fit.
-/
namespace CodeJudge

inductive Scalar where
  | int
  | long
  | double
  | bool
  | string
  | char
  deriving DecidableEq, Repr

namespace Scalar

def all : List Scalar := [int, long, double, bool, string, char]

/-- The name of a scalar type in data. -/
def name : Scalar → String
  | int => "int"
  | long => "long"
  | double => "double"
  | bool => "bool"
  | string => "str"
  | char => "char"

/-- Every element type that names a scalar type, in small letters. -/
def aliases : List (String × Scalar) :=
  [("int", int), ("integer", int), ("int32", int),
    ("long", long), ("int64", long), ("long long", long),
    ("float", double), ("double", double), ("number", double),
    ("bool", bool), ("boolean", bool), ("string", string), ("str", string),
    ("char", char), ("character", char)]

/-- The scalar type of an element type, whatever its letter case and the space around it. -/
def ofName? (s : String) : Option Scalar := aliases.lookup (Text.lowerAscii (Text.trim s))

/-- The scalar type that a single value has; `null` and objects have none. -/
def ofLeaf? : Json.Value → Option Scalar
  | .number (.float _) => some double
  | .number (.int i) => some (if IsInt32 i then int else long)
  | .bool _ => some bool
  | .string _ => some string
  | _ => none

/-- The wider of two numeric types; anything else stays as it is. -/
def widen : Scalar → Scalar → Scalar
  | int, long => long
  | int, double => double
  | long, double => double
  | current, _ => current

/-- What is known after one more value that is no array. -/
def observe (known : Option Scalar) (v : Json.Value) : Option Scalar :=
  match known, ofLeaf? v with
  | none, found => found
  | some s, none => some s
  | some s, some found => some (s.widen found)

mutual
/-- What is known after one more value; an array shows what its items show one after the other. -/
def infer (known : Option Scalar) : Json.Value → Option Scalar
  | .array items => inferAll known items
  | v => observe known v

def inferAll (known : Option Scalar) : List Json.Value → Option Scalar
  | [] => known
  | v :: vs => inferAll (infer known v) vs
end

/-- The scalar type that samples fit, if they show one. -/
def ofSamples? (samples : List Json.Value) : Option Scalar := inferAll none samples

/-- The scalar type of a parameter or a result; an integer if nothing is known. -/
def resolve (element : Option String) (samples : List Json.Value) : Scalar :=
  match element.bind ofName? with
  | some s => s
  | none => (ofSamples? samples).getD int

/-- The type in type hints. -/
def pythonType : Scalar → String
  | int | long => "int"
  | double => "float"
  | bool => "bool"
  | string | char => "str"

/-- The type in documentation comments. -/
def javascriptType : Scalar → String
  | int | long | double => "number"
  | bool => "boolean"
  | string | char => "string"

def cppType : Scalar → String
  | int => "int"
  | long => "long long"
  | double => "double"
  | bool => "bool"
  | string => "string"
  | char => "char"

def javaType : Scalar → String
  | int => "int"
  | long => "long"
  | double => "double"
  | bool => "boolean"
  | string => "String"
  | char => "char"

/-- The class that holds a value of the type. -/
def javaBoxed : Scalar → String
  | int => "Integer"
  | long => "Long"
  | double => "Double"
  | bool => "Boolean"
  | string => "String"
  | char => "Character"

def toJson (s : Scalar) : Json.Value := .string s.name

def ofJson : Json.Decoder Scalar := Json.Decode.variant (all.map fun s => (s.name, s)) none

end Scalar

end CodeJudge
