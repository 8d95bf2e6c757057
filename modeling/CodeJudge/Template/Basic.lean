import CodeJudge.Json.Printer
/-!
Templates: text with places for values, conditions and repetitions. Rendering is strict: a value
that the data lack is a fault, even where it is only tested. Values are written as they are.
-/
namespace CodeJudge

/-- A value of the data: the steps to it from the value at hand or from the outermost one. -/
structure Reference where
  fromRoot : Bool
  steps : List String
  deriving DecidableEq, Repr

namespace Template

/-- A part of a template. -/
inductive Node where
  | text (s : String)
  | value (r : Reference)
  | when (r : Reference) (holds fails : List Node)
  /-- A body for each item, each item being the value at hand, and a body for no items. -/
  | each (r : Reference) (body : List Node) (empty : Option (List Node))
  /-- A call of something that does not exist, at fault when it is reached. -/
  | unknown (name : String)
  deriving Repr

end Template

/-- A template is the list of its parts. -/
abbrev Template := List Template.Node

namespace Reference

/-- A member of the value at hand. -/
def member (name : String) : Reference := ⟨false, [name]⟩

/-- The value that steps lead to. -/
def follow : List String → Json.Value → Option Json.Value
  | [], v => some v
  | step :: steps, v => (v.get? step).bind (follow steps)

def find? (r : Reference) (root here : Json.Value) : Option Json.Value :=
  follow r.steps (if r.fromRoot then root else here)

end Reference

namespace Template

/-- Whether a condition on a value holds: it does not for `null`, zero and what is empty. -/
def truth : Json.Value → Bool
  | .null => false
  | .bool b => b
  | .number (.int i) => i != 0
  | .number (.float x) => !x.isZero
  | .string s => !s.isEmpty
  | .array items => !items.isEmpty
  | .object members => !members.isEmpty

mutual
/-- A value as text. -/
def valueText : Json.Value → String
  | .null => ""
  | .bool b => if b then "true" else "false"
  | .number n => String.ofList (Json.writeNumber n)
  | .string s => s
  | .array items => "[" ++ String.intercalate ", " (valueTexts items) ++ "]"
  | .object _ => "[object]"

def valueTexts : List Json.Value → List String
  | [] => []
  | v :: vs => valueText v :: valueTexts vs
end

/-- The values that a repetition goes over. -/
def itemsOf? : Json.Value → Option (List Json.Value)
  | .array items => some items
  | .object members => some (members.map (·.2))
  | _ => none

/-- The texts of all items one after the other, unless one is at fault. -/
def concat (f : Json.Value → Option String) : List Json.Value → Option String
  | [] => some ""
  | v :: vs => do
    let first ← f v
    let rest ← concat f vs
    return first ++ rest

mutual
/-- The text of a part, where `here` is the value at hand. -/
def Node.render (root here : Json.Value) : Node → Option String
  | .text s => some s
  | .value r => (r.find? root here).map valueText
  | .when r holds fails =>
    match r.find? root here with
    | none => none
    | some v => if truth v then renderAll root here holds else renderAll root here fails
  | .each r body none =>
    match (r.find? root here).bind itemsOf? with
    | none => none
    | some items => concat (fun item => renderAll root item body) items
  | .each r body (some empty) =>
    match r.find? root here with
    | none => none
    | some v =>
      match itemsOf? v with
      | none => renderAll root here empty
      | some items =>
        if items.isEmpty then renderAll root here empty
        else concat (fun item => renderAll root item body) items
  | .unknown _ => none

/-- The text of parts one after the other. -/
def renderAll (root here : Json.Value) : List Node → Option String
  | [] => some ""
  | n :: ns => do
    let first ← n.render root here
    let rest ← renderAll root here ns
    return first ++ rest
end

/-- The text of a template with the given data; none if the data lack a value. -/
def render (t : Template) (data : Json.Value) : Option String := renderAll data data t

/-- The text of a template whose data are known to be complete; one at fault has no text. -/
def fill (t : Template) (data : Json.Value) : String := (t.render data).getD ""

/-- Whole lines of text. -/
def rows (ls : List String) : Template := [.text (String.join (ls.map (· ++ "\n")))]

/-- A line made of parts. -/
def row (parts : List Node) : Template := parts ++ [.text "\n"]

/-- A member of the value at hand, as a part. -/
def hole (name : String) : Node := .value (.member name)

end Template

end CodeJudge
