import CodeJudge.Target
import CodeJudge.Yaml.Node.Reader
/-!
Settings, read from YAML. Every field has a default, and so has a text without any content.
-/
namespace CodeJudge

structure Settings where
  /-- How many lines of code are shown on either side of a reported one. -/
  contextLines : Nat
  logLevel : String
  defaultTarget : Target
  /-- How far two floating-point results may lie apart. -/
  tolerance : Binary64
  deriving DecidableEq, Repr

/-- Why a text gives no settings. -/
inductive SettingsError where
  | missingFile (name : String)
  | unreadable
  | negativeTolerance
  deriving DecidableEq, Repr

def SettingsError.message : SettingsError → String
  | missingFile name => "CONFIG/failed to read " ++ name ++ ": <io>"
  | unreadable => "CONFIG/<yaml>"
  | negativeTolerance => "CONFIG/float_tolerance must be a non-negative number"

namespace Settings

/-- The tolerance unless another is set, a millionth. -/
def defaultTolerance : Binary64 := .ofDecimal false 1 (-6)

def default : Settings := ⟨2, "info", .python, defaultTolerance⟩

/-- A field of a mapping, or its default; none if it is there twice or does not fit. -/
def fieldOr? {α : Type} (entries : List (String × Yaml.Node)) (name : String)
    (read : Yaml.Node → Option α) (default : α) : Option α := do
  match ← Yaml.field? entries name with
  | none => return default
  | some node => read node

/-- The target that a node names. -/
def targetOf? (node : Yaml.Node) : Option Target := do
  let name ← node.name?
  (Target.all.map fun t => (t.name, t)).lookup name

def ofNode? (node : Yaml.Node) : Option Settings := do
  let entries ← node.entries?
  return {
    contextLines := ← fieldOr? entries "context_lines" Yaml.Node.size? default.contextLines
    logLevel := ← fieldOr? entries "log_level" Yaml.Node.text? default.logLevel
    defaultTarget := ← fieldOr? entries "default_target" targetOf? default.defaultTarget
    tolerance := ← fieldOr? entries "float_tolerance" Yaml.Node.float? default.tolerance }

/-- The settings of a YAML text; the tolerance must be a number that is not below zero. -/
def ofYaml (s : String) : Except SettingsError Settings :=
  if Text.isBlankText s then .ok default
  else
    match (Yaml.read? s).bind ofNode? with
    | none => .error .unreadable
    | some settings =>
      if settings.tolerance.isNaN || settings.tolerance.isNegative then .error .negativeTolerance
      else .ok settings

def toJson (s : Settings) : Json.Value :=
  .object [("context_lines", .nat s.contextLines), ("log_level", .string s.logLevel),
    ("default_target", s.defaultTarget.toJson), ("float_tolerance", .number (.float s.tolerance))]

def shape : Json.Shape :=
  ⟨"HarnessConfig",
    [.of "context_lines" Json.Decode.size true, .of "log_level" Json.Decode.string true,
      .of "default_target" Target.ofJson true, .of "float_tolerance" Json.Decode.float true]⟩

def ofJson : Json.Decoder Settings := fun v => do
  let slots ← shape.openAny v
  return {
    contextLines := ← slots.withDefault "context_lines" default.contextLines Json.Decode.size
    logLevel := ← slots.withDefault "log_level" default.logLevel Json.Decode.string
    defaultTarget := ← slots.withDefault "default_target" default.defaultTarget Target.ofJson
    tolerance := ← slots.withDefault "float_tolerance" default.tolerance Json.Decode.float }

end Settings

end CodeJudge
