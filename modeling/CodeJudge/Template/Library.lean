import CodeJudge.Template.Reader
import CodeJudge.Target
import CodeJudge.Yaml.Node.Reader
/-!
Template libraries: the named templates for one target, built in or read from YAML.
-/
namespace CodeJudge

/-- A named template and what it is for. -/
structure TemplateEntry where
  name : String
  description : String
  template : Template
  deriving Repr

/-- The templates for one target, in ascending order of their names. -/
structure TemplateLibrary where
  version : String
  target : Target
  entries : List TemplateEntry
  deriving Repr

namespace TemplateLibrary

def find? (l : TemplateLibrary) (name : String) : Option Template :=
  (l.entries.find? fun e => e.name == name).map (·.template)

def has (l : TemplateLibrary) (name : String) : Bool := (l.find? name).isSome

def names (l : TemplateLibrary) : List String := l.entries.map (·.name)

/-- The text of a named template with the given data. -/
def render (l : TemplateLibrary) (name : String) (data : Json.Value) : Option String :=
  (l.find? name).bind fun t => t.render data

/-- The text of a named template, or nothing if it is not wanted. -/
def renderIf (l : TemplateLibrary) (wanted : Bool) (name : String) (data : Json.Value) :
    Option String :=
  if wanted then l.render name data else some ""

/-- A template as a node holds it: its text, and a description that may be missing. -/
def entry? (name : String) (node : Yaml.Node) : Option TemplateEntry := do
  let fields ← node.entries?
  let description ←
    match ← Yaml.field? fields "description" with
    | none => some ""
    | some d => d.text?
  let text ← (← (← Yaml.field? fields "template")).text?
  return ⟨name, description, ← Template.read? text⟩

/-- The library of a node; of templates with one name the last stays. -/
def ofNode? (node : Yaml.Node) : Option TemplateLibrary := do
  let fields ← node.entries?
  let version ← (← (← Yaml.field? fields "version")).text?
  let targetName ← (← (← Yaml.field? fields "target")).name?
  let target ← (Target.all.map fun t => (t.name, t)).lookup targetName
  let templates ← (← (← Yaml.field? fields "templates")).entries?
  let entries ← (Json.sortMembers templates).mapM fun (name, node) => entry? name node
  return ⟨version, target, entries⟩

/-- The library of a YAML text. -/
def ofYaml? (s : String) : Option TemplateLibrary := (Yaml.read? s).bind ofNode?

end TemplateLibrary

end CodeJudge
