import CodeJudge.Json.Decode
import CodeJudge.Text.Blank
/-!
Base types: the coarse shape of a value that a solution takes or returns.
-/
namespace CodeJudge

inductive BaseType where
  | primitive
  | array
  | matrix
  | linkedList
  | tree
  | graph
  deriving DecidableEq, Repr

namespace BaseType

def all : List BaseType := [primitive, array, matrix, linkedList, tree, graph]

/-- The name of a base type in data and messages. -/
def name : BaseType → String
  | primitive => "primitive"
  | array => "array"
  | matrix => "matrix"
  | linkedList => "linked_list"
  | tree => "tree"
  | graph => "graph"

/-- The strategy that handles a base type unless another one is registered. -/
def defaultStrategy : BaseType → String
  | primitive => "primitive"
  | array => "json_array"
  | matrix => "nested_array"
  | linkedList => "linked_list_array"
  | tree => "tree_array"
  | graph => "adjacency_list"

/-- The base type of a name, white space around it aside. -/
def ofName? (s : String) : Option BaseType :=
  (all.map fun b => (b.name, b)).lookup (Text.trim s)

/-- The place of a base type among all. -/
def rank : BaseType → Nat
  | primitive => 0
  | array => 1
  | matrix => 2
  | linkedList => 3
  | tree => 4
  | graph => 5

def toJson (b : BaseType) : Json.Value := .string b.name

def ofJson : Json.Decoder BaseType := Json.Decode.variant (all.map fun b => (b.name, b)) none

end BaseType

end CodeJudge
