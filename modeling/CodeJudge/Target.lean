import CodeJudge.Json.Decode
import CodeJudge.Text.Blank
/-!
Target languages: the languages that a solution may be written in and a program is generated for.
-/
namespace CodeJudge

inductive Target where
  | python
  | javascript
  | cpp
  | java
  deriving DecidableEq, Repr

/-- A name that no target answers to. -/
inductive TargetError where
  | unsupported (name : String)
  deriving DecidableEq, Repr

def TargetError.message : TargetError → String
  | unsupported name => "TARGET/unsupported target language '" ++ name ++ "'"

namespace Target

def all : List Target := [python, javascript, cpp, java]

/-- The name of a target in data and messages. -/
def name : Target → String
  | python => "python"
  | javascript => "javascript"
  | cpp => "cpp"
  | java => "java"

/-- The ending of a source file. -/
def extension : Target → String
  | python => "py"
  | javascript => "js"
  | cpp => "cpp"
  | java => "java"

/-- Whether a generated program has to release its structures. -/
def managesMemory (t : Target) : Bool := t == cpp

/-- Every name that a target answers to, in small letters. -/
def aliases : List (String × Target) :=
  [("python", python), ("python3", python), ("py", python),
    ("javascript", javascript), ("js", javascript), ("node", javascript), ("nodejs", javascript),
    ("cpp", cpp), ("c++", cpp), ("cxx", cpp), ("cc", cpp), ("java", java)]

/-- The target of a name, whatever its letter case and the white space around it. -/
def ofName (s : String) : Except TargetError Target :=
  let name := Text.lowerAscii (Text.trim s)
  match aliases.lookup name with
  | some t => .ok t
  | none => .error (.unsupported name)

def toJson (t : Target) : Json.Value := .string t.name

/-- Data hold the name itself, not an alias. -/
def ofJson : Json.Decoder Target := Json.Decode.variant (all.map fun t => (t.name, t)) none

end Target

end CodeJudge
