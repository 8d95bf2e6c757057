import CodeJudge.Diagnostic
import CodeJudge.Text.Lower
import CodeJudge.Text.Pattern
import CodeJudge.Text.Replace
/-!
Rules. A rule says for which texts of failures it is meant and what is shown for them. Its texts
may name values in braces, which patterns find in the text of the failure.
-/
namespace CodeJudge

/-- A condition on the text of a failure. -/
inductive Trigger where
  | always
  | mentions (needle : String)
  /-- Mentions in any letter case. -/
  | mentionsAnyCase (needle : String)
  | finds (pattern : Text.Pattern)
  | any (triggers : List Trigger)
  | all (triggers : List Trigger)
  deriving Repr

namespace Trigger

mutual
/-- Whether the condition holds. -/
def fires (raw : String) : Trigger → Bool
  | always => true
  | mentions needle => Text.contains raw needle
  | mentionsAnyCase needle => Text.contains (Text.lower raw) (Text.lower needle)
  | finds pattern => pattern.occurs raw
  | any triggers => anyFires raw triggers
  | all triggers => allFire raw triggers

def anyFires (raw : String) : List Trigger → Bool
  | [] => false
  | t :: ts => t.fires raw || anyFires raw ts

def allFire (raw : String) : List Trigger → Bool
  | [] => true
  | t :: ts => t.fires raw && allFire raw ts
end

end Trigger

/-- A named value in the text of a failure: the first group of the first pattern that is found, or
else the default. -/
structure Capture where
  name : String
  patterns : List Text.Pattern
  default : Option String
  deriving Repr

/-- The values of captures by ascending names; of captures with one name the last counts. -/
abbrev Captured := List (String × Option String)

namespace Captured

def ofCaptures (captures : List Capture) (raw : String) : Captured :=
  Json.sortMembers (captures.map fun c =>
    (c.name, c.patterns.findSome? (·.capture? raw) <|> c.default))

/-- The value of a name, if there is one. -/
def value? (c : Captured) (name : String) : Option String := (c.lookup name).join

/-- A text with values in place of their names in braces, put in name by name. -/
def fill (c : Captured) (template : String) : String :=
  c.foldl (fun s (name, value) =>
    Text.replace s ("\x7b" ++ name ++ "\x7d") (value.getD "unknown")) template

end Captured

/-- What a diagnostic says, and when. -/
structure Rule where
  category : Category
  trigger : Trigger
  title : String
  /-- Whether the line, if it is known, stands behind the title. -/
  lineInTitle : Bool := false
  description : String
  suggestions : List String
  captures : List Capture := []
  debugTips : List String := []
  sample : Option CodeExample := none
  /-- Whether the text of the failure is shown. -/
  keepRaw : Bool := false
  /-- What the values found change in the diagnostic. -/
  refine : Captured → Diagnostic → Diagnostic := fun _ d => d

namespace Rule

def fires (r : Rule) (raw : String) : Bool := r.trigger.fires raw

/-- The title, with the line behind it if the rule wants it there. -/
def titleText (r : Rule) (captured : Captured) (line : Option Nat) : String :=
  let title := captured.fill r.title
  match line with
  | some n => if r.lineInTitle then title ++ " on Line " ++ toString n else title
  | none => title

/-- The diagnostic for a text, whether the rule is meant for it or not. -/
def build (r : Rule) (raw : String) (line : Option Nat) : Diagnostic :=
  let captured := Captured.ofCaptures r.captures raw
  r.refine captured {
    category := r.category
    title := r.titleText captured line
    description := captured.fill r.description
    lineNumber := line
    codeContext := none
    suggestions := r.suggestions.map captured.fill
    sample := r.sample
    details := []
    debugTips := r.debugTips
    rawError := if r.keepRaw && !raw.isEmpty then some raw else none }

/-- The first rule that is meant for a text. -/
def first? (rules : List Rule) (raw : String) : Option Rule := rules.find? (·.fires raw)

end Rule

end CodeJudge
