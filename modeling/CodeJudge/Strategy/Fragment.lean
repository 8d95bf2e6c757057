import CodeJudge.Strategy.Basic
import CodeJudge.Literal.Cpp
import CodeJudge.Literal.Java
/-!
Fragments of generated programs. Python and JavaScript programs read their tests at run time; C++
and Java programs hold each test value as a typed literal. In the flat form of a value linked lists
are arrays of their items, trees are arrays in level order in which `null` stands for a missing
child, and graphs are arrays of lists of neighbours.
-/
namespace CodeJudge

/-- The place where an input value is built. -/
structure ParseSite where
  variableName : String
  /-- The place of the value among the inputs of a test. -/
  index : Nat
  /-- The test value; absent where the program reads it at run time. -/
  value : Option Json.Value
  scalar : Scalar

/-- The place where a result is flattened and the expected value declared. -/
structure SerializeSite where
  result : String
  actual : String
  expected : String
  /-- The expected value; absent where the program reads it at run time. -/
  value : Option Json.Value
  scalar : Scalar

namespace BaseType

/-- The type of native values in signatures and declarations. -/
def nativeType (b : BaseType) (s : Scalar) : Target → String
  | .python =>
    match b with
    | primitive => s.pythonType
    | array => "List[" ++ s.pythonType ++ "]"
    | matrix => "List[List[" ++ s.pythonType ++ "]]"
    | linkedList => "Optional[ListNode]"
    | tree => "Optional[TreeNode]"
    | graph => "List[List[int]]"
  | .javascript =>
    match b with
    | primitive => s.javascriptType
    | array => s.javascriptType ++ "[]"
    | matrix => s.javascriptType ++ "[][]"
    | linkedList => "ListNode|null"
    | tree => "TreeNode|null"
    | graph => "number[][]"
  | .cpp =>
    match b with
    | primitive => s.cppType
    | array => Literal.Cpp.vectorType s 1
    | matrix => Literal.Cpp.vectorType s 2
    | linkedList => "ListNode*"
    | tree => "TreeNode*"
    | graph => Literal.Cpp.vectorType .int 2
  | .java =>
    match b with
    | primitive => s.javaType
    | array => Literal.Java.arrayType s 1
    | matrix => Literal.Java.arrayType s 2
    | linkedList => "ListNode"
    | tree => "TreeNode"
    | graph => "List<List<Integer>>"

/-- The items of a tree in level order; what is no array has none. -/
def levelOrder : Json.Value → List Json.Value
  | .array items => items
  | _ => []

/-- The C++ type of a tree in level order. -/
def cppLevelOrderType : String := "vector<optional<int>>"

/-- A tree in level order as a C++ literal. -/
def cppLevelOrder (v : Json.Value) : String :=
  cppLevelOrderType ++ "\x7b" ++ String.intercalate ", " ((levelOrder v).map fun
    | .null => "nullopt"
    | item => Literal.Cpp.scalar item .int) ++ "\x7d"

/-- A tree in level order as a Java literal. -/
def javaLevelOrder (v : Json.Value) : String :=
  "new Integer[]\x7b" ++ String.intercalate ", " ((levelOrder v).map fun
    | .null => "null"
    | item => Literal.Java.scalar item .int) ++ "\x7d"

/-- The C++ type of the flat form. -/
def cppFlatType (b : BaseType) (s : Scalar) : String :=
  match b with
  | primitive => s.cppType
  | array => Literal.Cpp.vectorType s 1
  | matrix => Literal.Cpp.vectorType s 2
  | linkedList => Literal.Cpp.vectorType .int 1
  | tree => cppLevelOrderType
  | graph => Literal.Cpp.vectorType .int 2

/-- The flat form of a value as a C++ literal. -/
def cppFlat (b : BaseType) (s : Scalar) (v : Json.Value) : String :=
  match b with
  | primitive => Literal.Cpp.scalar v s
  | array => Literal.Cpp.vector s 1 v
  | matrix => Literal.Cpp.vector s 2 v
  | linkedList => Literal.Cpp.vector .int 1 v
  | tree => cppLevelOrder v
  | graph => Literal.Cpp.vector .int 2 v

/-- The flat form of a value as a Java literal. -/
def javaFlat (b : BaseType) (s : Scalar) (v : Json.Value) : String :=
  match b with
  | primitive => Literal.Java.scalar v s
  | array => Literal.Java.array s 1 v
  | matrix => Literal.Java.array s 2 v
  | linkedList => Literal.Java.array .int 1 v
  | tree => javaLevelOrder v
  | graph => Literal.Java.array .int 2 v

/-- The Python expression that builds a value from its flat form. -/
def pythonBuild (b : BaseType) (flat : String) : String :=
  match b with
  | primitive => flat
  | array => "list(" ++ flat ++ ")"
  | matrix => "[list(row) for row in " ++ flat ++ "]"
  | linkedList => "create_linked_list(" ++ flat ++ ")"
  | tree => "create_tree(" ++ flat ++ ")"
  | graph => "[list(neighbors) for neighbors in " ++ flat ++ "]"

/-- The JavaScript expression that builds a value from its flat form. -/
def javascriptBuild (b : BaseType) (flat : String) : String :=
  match b with
  | primitive => flat
  | array => "Array.from(" ++ flat ++ ")"
  | matrix => flat ++ ".map((row) => Array.from(row))"
  | linkedList => "createLinkedList(" ++ flat ++ ")"
  | tree => "createTree(" ++ flat ++ ")"
  | graph => flat ++ ".map((neighbors) => Array.from(neighbors))"

/-- The C++ expression that builds a value from its flat form. -/
def cppBuild (b : BaseType) (flat : String) : String :=
  match b with
  | linkedList => "createLinkedList(" ++ flat ++ ")"
  | tree => "createTree(" ++ flat ++ ")"
  | _ => flat

/-- The Java expression that builds a value from its flat form. -/
def javaBuild (b : BaseType) (flat : String) : String :=
  match b with
  | linkedList => "Harness.createLinkedList(" ++ flat ++ ")"
  | tree => "Harness.createTree(" ++ flat ++ ")"
  | graph => "Harness.adjacency(" ++ flat ++ ")"
  | _ => flat

/-- The Python expression that flattens a value; a missing sequence stays missing. -/
def pythonFlatten (b : BaseType) (value : String) : String :=
  match b with
  | primitive => value
  | array => "list(" ++ value ++ ") if " ++ value ++ " is not None else None"
  | matrix => "[list(row) for row in " ++ value ++ "] if " ++ value ++ " is not None else None"
  | linkedList => "linked_list_to_array(" ++ value ++ ")"
  | tree => "tree_to_array(" ++ value ++ ")"
  | graph =>
    "[list(neighbors) for neighbors in " ++ value ++ "] if " ++ value ++ " is not None else None"

/-- The JavaScript expression that flattens a value; a missing sequence becomes `null`. -/
def javascriptFlatten (b : BaseType) (value : String) : String :=
  match b with
  | primitive => value
  | array => value ++ " == null ? null : Array.from(" ++ value ++ ")"
  | matrix =>
    value ++ " == null ? null : Array.from(" ++ value ++ ", (row) => Array.from(row))"
  | linkedList => "linkedListToArray(" ++ value ++ ")"
  | tree => "treeToArray(" ++ value ++ ")"
  | graph =>
    value ++ " == null ? null : Array.from(" ++ value ++ ", (neighbors) => Array.from(neighbors))"

/-- The Java expression that flattens a value. -/
def javaFlatten (b : BaseType) (value : String) : String :=
  match b with
  | linkedList => "Harness.linkedListToList(" ++ value ++ ")"
  | tree => "Harness.treeToList(" ++ value ++ ")"
  | _ => value

/-- The C++ declaration of the flattened result. -/
def cppActual (b : BaseType) (site : SerializeSite) : String :=
  match b with
  | linkedList =>
    b.cppFlatType site.scalar ++ " " ++ site.actual ++ " = linkedListToVector(" ++ site.result
      ++ ");"
  | tree =>
    b.cppFlatType site.scalar ++ " " ++ site.actual ++ " = treeToVector(" ++ site.result ++ ");"
  | _ => "const auto& " ++ site.actual ++ " = " ++ site.result ++ ";"

/-- The statement that binds a variable to an input value. -/
def parseFragment (b : BaseType) (site : ParseSite) : Target → String
  | .python =>
    site.variableName ++ " = " ++ b.pythonBuild ("_inputs[" ++ toString site.index ++ "]")
  | .javascript =>
    "const " ++ site.variableName ++ " = "
      ++ b.javascriptBuild ("__inputs[" ++ toString site.index ++ "]") ++ ";"
  | .cpp =>
    b.nativeType site.scalar .cpp ++ " " ++ site.variableName ++ " = "
      ++ b.cppBuild (b.cppFlat site.scalar (site.value.getD .null)) ++ ";"
  | .java =>
    b.nativeType site.scalar .java ++ " " ++ site.variableName ++ " = "
      ++ b.javaBuild (b.javaFlat site.scalar (site.value.getD .null)) ++ ";"

/-- The statements that flatten a result and, with typed literals, declare the expected value. -/
def serializeFragment (b : BaseType) (site : SerializeSite) : Target → String
  | .python => site.actual ++ " = " ++ b.pythonFlatten site.result
  | .javascript => "const " ++ site.actual ++ " = " ++ b.javascriptFlatten site.result ++ ";"
  | .cpp =>
    b.cppActual site ++ "\n" ++ b.cppFlatType site.scalar ++ " " ++ site.expected ++ " = "
      ++ b.cppFlat site.scalar (site.value.getD .null) ++ ";"
  | .java =>
    "Object " ++ site.actual ++ " = Harness.canonical(" ++ b.javaFlatten site.result ++ ");\n"
      ++ "Object " ++ site.expected ++ " = Harness.canonical("
      ++ b.javaFlat site.scalar (site.value.getD .null) ++ ");"

end BaseType

end CodeJudge
