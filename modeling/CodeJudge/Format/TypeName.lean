import CodeJudge.Arithmetic
import CodeJudge.Format.Spec
/-!
Type names such as `array<int>` or `List[List[int]]`, the plain way to describe a shape. A name
is read without regard to letter case and to white space around it and around an argument; a name
that is not known is taken for that of a scalar.
-/
namespace CodeJudge.TypeName

/-- The text between an opening and a closing bracket that enclose all of it. -/
def enclosed? (left right : Char) : List Char → Option (List Char)
  | [] => none
  | c :: cs => if c == left && cs.getLast? == some right then some cs.dropLast else none

/-- The argument `X` of `name<X>` or `name[X]`, trimmed; a blank one does not count. -/
def argument? (name : String) (cs : List Char) : Option (List Char) := do
  let rest ← name.toList.isPrefixOf? cs
  let inner ← enclosed? '<' '>' rest <|> enclosed? '[' ']' rest
  let inner := Text.trimmed inner
  if inner.isEmpty then none else some inner

/-- The argument of `array` or `list`. -/
def sequenceArgument? (cs : List Char) : Option (List Char) :=
  argument? "array" cs <|> argument? "list" cs

def scalars : List String :=
  ["int", "integer", "long", "float", "double", "boolean", "bool", "string", "str", "char"]

/-- The names of shapes that take no argument. -/
def shapes : List (String × BaseType) :=
  [("linked_list", .linkedList), ("linkedlist", .linkedList), ("listnode", .linkedList),
    ("tree", .tree), ("binary_tree", .tree), ("treenode", .tree),
    ("graph", .graph), ("adjacency_list", .graph)]

/-- The shape that a trimmed name in small letters stands for. -/
def ofLower? (cs : List Char) : Option FormatSpec :=
  let name := String.ofList cs
  if scalars.contains name then some ((FormatSpec.ofBaseType .primitive).withElement name)
  else
    match shapes.lookup name with
    | some b => some (.ofBaseType b)
    | none =>
      match argument? "matrix" cs with
      | some element => some ((FormatSpec.ofBaseType .matrix).withElement (String.ofList element))
      | none => do
        let inner ← sequenceArgument? cs
        match sequenceArgument? inner with
        | some element =>
          return (FormatSpec.ofBaseType .matrix).withElement (String.ofList element)
        | none => return (FormatSpec.ofBaseType .array).withElement (String.ofList inner)

/-- The shape of a name that is known. -/
def toSpec? (s : String) : Option FormatSpec :=
  ofLower? ((Text.trimmed s.toList).map Char.toLower)

/-- A scalar of the given name. -/
def scalarSpec (s : String) : FormatSpec :=
  (FormatSpec.ofBaseType .primitive).withElement (Text.trim s)

/-- The shape of a name; a name that is not known is a scalar's. -/
def toSpec (s : String) : FormatSpec := (toSpec? s).getD (scalarSpec s)

/-- How many brackets are open behind a character, if `depth` are in front of it. -/
def depthBehind (depth : Int) (c : Char) : Except Overflow Int :=
  if c == '<' || c == '[' then addInt32 depth 1
  else if c == '>' || c == ']' then addInt32 depth (-1)
  else .ok depth

/-- The characters between the commas outside all brackets, where `depth` brackets are open. -/
def cutTopLevel : Int → List Char → Except Overflow (List (List Char))
  | _, [] => .ok [[]]
  | depth, c :: cs =>
    if c == ',' && depth ≤ 0 then (cutTopLevel depth cs).map ([] :: ·)
    else do
      let depth ← depthBehind depth c
      let parts ← cutTopLevel depth cs
      return parts.modifyHead (c :: ·)

/-- The pieces without the white space around them; blank ones are left out. -/
def namesIn (pieces : List (List Char)) : List String :=
  ((pieces.map Text.trimmed).filter fun p => !p.isEmpty).map String.ofList

/-- The names in a list such as `array<int>, map<a,b>, int`. -/
def splitTopLevel (s : String) : Except Overflow (List String) :=
  (cutTopLevel 0 s.toList).map namesIn

end CodeJudge.TypeName
