import CodeJudge.Binary64.Reader
import CodeJudge.Yaml.Number
/-!
YAML nodes, and what they may stand for as text, numbers and mappings.
-/
namespace CodeJudge.Yaml

/-- A node. A scalar keeps its text and whether it was written as it is, without quotes. -/
inductive Node where
  | scalar (plain : Bool) (text : String)
  | sequence (items : List Node)
  | mapping (entries : List (Node × Node))
  /-- A node under a tag of its document's own. -/
  | tagged (name : String) (node : Node)
  deriving Repr

instance : Inhabited Node := ⟨.scalar true ""⟩

namespace Node

/-- The node of a place where nothing is written. -/
def nothing : Node := .scalar true ""

/-- The node without its tag. -/
def untagged : Node → Node
  | tagged _ n => n
  | n => n

/-- A scalar as a natural number of 64 bits. -/
def size? (n : Node) : Option Nat :=
  match n.untagged with
  | .scalar true text =>
    match text.toList with
    | '+' :: cs => (magnitude? cs).filter (· < UInt64.size)
    | cs => (magnitude? cs).filter (· < UInt64.size)
  | _ => none

/-- A scalar as a floating-point number; infinity and what is no number have words of their own. -/
def float? (n : Node) : Option Binary64 :=
  match n.untagged with
  | .scalar true text =>
    let unsigned := if text.startsWith "+" then String.ofList (text.toList.drop 1) else text
    if text.startsWith "+" && (unsigned.startsWith "+" || unsigned.startsWith "-") then none
    else if [".inf", ".Inf", ".INF"].contains unsigned then some (.infinite false)
    else if ["-.inf", "-.Inf", "-.INF"].contains text then some (.infinite true)
    else if [".nan", ".NaN", ".NAN"].contains text then some .nan
    else (Binary64.ofText? unsigned).filter (·.isFinite)
  | _ => none

/-- The text of a scalar, however it is written. -/
def text? (n : Node) : Option String :=
  match n.untagged with
  | .scalar _ text => some text
  | _ => none

/-- Whether nothing is written, or a word for it. -/
def isNull (n : Node) : Bool :=
  match n.untagged with
  | .scalar plain text => text == "" || (plain && ["null", "Null", "NULL", "~"].contains text)
  | _ => false

/-- The name that a node gives: its tag, with nothing under it, or else its text. -/
def name? : Node → Option String
  | tagged name n => if n.isNull then some name else none
  | n => n.text?

/-- The entries of a mapping whose keys are scalars; a place where nothing is written counts as a
mapping without entries. -/
def entries? (n : Node) : Option (List (String × Node)) :=
  match n.untagged with
  | .mapping entries => entries.mapM fun (key, value) => key.text?.map (·, value)
  | .scalar true "" => some []
  | _ => none

end Node

/-- The node of a field that may stand only once: whether it is fine, and the node if there. -/
def field? (entries : List (String × Node)) (name : String) : Option (Option Node) :=
  match entries.filter (·.1 == name) with
  | [] => some none
  | [(_, node)] => some (some node)
  | _ => none

end CodeJudge.Yaml
