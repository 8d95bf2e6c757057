import CodeJudge.Plan.Basic
import CodeJudge.Template.BuiltIn
/-!
Starters: what the author of a solution begins with, the signature of the function without a body.
-/
namespace CodeJudge.Plan

/-- A parameter of a C++ signature: a container is taken by reference. -/
def cppParam : String × String → String
  | (type, name) =>
    if type.startsWith "vector<" || type == "string" then type ++ "& " ++ name
    else type ++ " " ++ name

/-- The parameter list of a signature, where it is written with types in front. -/
def signature (p : Plan) : String :=
  String.intercalate ", " (p.nativeParams.map
    (if p.target == .cpp then cppParam else fun (type, name) => type ++ " " ++ name))

/-- A parameter for a template that writes types in its own way. -/
def paramData : String × String → Json.Value
  | (type, name) => .object [("name", .string name), ("type", .string type)]

/-- What the starter templates of all targets are filled with. -/
def starterData (p : Plan) : Json.Value :=
  .object [("arg_list", .string p.argumentList), ("brace_close", .string "\x7d"),
    ("brace_open", .string "\x7b"), ("function_name", .string p.functionName),
    ("needs_linked_list", .bool (p.uses .linkedList)), ("needs_tree", .bool (p.uses .tree)),
    ("params", .array (p.nativeParams.map paramData)), ("return_type", .string p.nativeReturn),
    ("signature", .string p.signature)]

def starterTemplate : Target → Template
  | .python => Template.Python.starter
  | .javascript => Template.Javascript.starter
  | .cpp => Template.Cpp.starter
  | .java => Template.Java.starter

/-- The code to begin with. -/
def starter (p : Plan) : String :=
  Text.trimStart ((starterTemplate p.target).fill p.starterData)

end CodeJudge.Plan
