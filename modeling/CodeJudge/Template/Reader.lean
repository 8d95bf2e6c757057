import CodeJudge.Template.Basic
import CodeJudge.Text.Blank
/-!
Reading templates from text. A value stands between two pairs of braces, a condition or repetition
between an opening and a closing tag. A tag of the latter kind that is alone on its line takes the
line away with it.
-/
namespace CodeJudge.Template

/-- A piece of a text: what is written as it is, or the inside of a tag. -/
inductive Token where
  | text (s : List Char)
  | tag (inside : List Char)
  deriving Repr, DecidableEq

def isGap (c : Char) : Bool := c == ' ' || c == '\t'

/-- What follows the line break, if nothing but space comes before it. The end of the text ends a
line too. -/
def afterLine? (cs : List Char) : Option (List Char) :=
  if cs.isEmpty then some [] else
  match cs.dropWhile isGap with
  | '\n' :: rest => some rest
  | '\r' :: '\n' :: rest => some rest
  | _ => none

/-- The characters before an end mark and those after it. -/
def cutAt? (mark : List Char) : List Char → Option (List Char × List Char)
  | [] => none
  | c :: cs =>
    match mark.isPrefixOf? (c :: cs) with
    | some rest => some ([], rest)
    | none => (cutAt? mark cs).map fun (inside, rest) => (c :: inside, rest)

/-- Whether a tag controls the parts around it and is not written itself. -/
def isControl (inside : List Char) : Bool :=
  match inside with
  | c :: _ => c == '#' || c == '/' || c == '!' || String.ofList inside == "else"
  | [] => false

/-- The pieces of a text. `line` tells whether only space has come before on the line, and `done`
holds the characters read since the last tag, the latest first. -/
def tokens? : Nat → Bool → List Char → List Char → Option (List Token)
  | 0, _, _, _ => none
  | _, _, done, [] => some [.text done.reverse]
  | bound + 1, line, done, '\x7b' :: '\x7b' :: cs => do
    let (inside, rest) ←
      match cs with
      | '\x7b' :: cs => cutAt? ['\x7d', '\x7d', '\x7d'] cs
      | cs => cutAt? ['\x7d', '\x7d'] cs
    let inside := Text.trimmed inside
    match if line && isControl inside then afterLine? rest else none with
    | some rest =>
      let tokens ← tokens? bound true [] rest
      return .text (done.dropWhile isGap).reverse :: .tag inside :: tokens
    | none =>
      let tokens ← tokens? bound false [] rest
      return .text done.reverse :: .tag inside :: tokens
  | bound + 1, line, done, c :: cs =>
    tokens? bound (if c == '\n' then true else line && isGap c) (c :: done) cs

/-- The words of the inside of a tag. -/
def wordsOf : List Char → List (List Char)
  | [] => [[]]
  | c :: cs =>
    if isGap c || c == '\n' then [] :: wordsOf cs
    else
      match wordsOf cs with
      | [] => [[c]]
      | w :: ws => (c :: w) :: ws

def tagWords (inside : List Char) : List String :=
  ((wordsOf inside).filter fun w => !w.isEmpty).map String.ofList

/-- The steps of a path: names with points between them. -/
def stepsOf : List Char → List (List Char)
  | [] => [[]]
  | c :: cs =>
    if c == '.' then [] :: stepsOf cs
    else
      match stepsOf cs with
      | [] => [[c]]
      | s :: ss => (c :: s) :: ss

def isNameChar (c : Char) : Bool :=
  c.isAlphanum || c == '_' || c == '-' || c == '$' || 128 ≤ c.toNat

/-- The value that a path names. -/
def reference? (path : String) : Option Reference :=
  let steps := stepsOf path.toList
  let (fromRoot, steps) :=
    match steps with
    | first :: rest =>
      if String.ofList first == "@root" then (true, rest)
      else if String.ofList first == "this" then (false, rest)
      else (false, first :: rest)
    | [] => (false, [])
  if steps.all fun s => !s.isEmpty && s.all isNameChar then
    some ⟨fromRoot, steps.map String.ofList⟩
  else none

/-- How the reading of a body ended. -/
inductive BodyEnd where
  | finish
  | otherwise
  | close (name : String)
  deriving Repr, DecidableEq

/-- A part with bodies, by the name of its tag. -/
def blockNode? (name : String) (arguments : List String) (body : List Node)
    (other : Option (List Node)) : Option Node :=
  match name, arguments with
  | "if", [path] => (reference? path).map fun r => .when r body (other.getD [])
  | "each", [path] => (reference? path).map fun r => .each r body other
  | name, _ => some (.unknown name)

/-- The parts up to the end of a body, how it ended, and the pieces after that. -/
def body? : Nat → List Token → Option (List Node × BodyEnd × List Token)
  | 0, _ => none
  | _, [] => some ([], .finish, [])
  | bound + 1, .text s :: ts => do
    let (nodes, ending, rest) ← body? bound ts
    return (if s.isEmpty then nodes else .text (String.ofList s) :: nodes, ending, rest)
  | bound + 1, .tag inside :: ts =>
    match inside with
    | [] => none
    | '!' :: _ => body? bound ts
    | '/' :: name => some ([], .close (Text.trim (String.ofList name)), ts)
    | '#' :: opening =>
      match tagWords opening with
      | [] => none
      | name :: arguments => do
        let (inner, ending, rest) ← body? bound ts
        let (other, ending, rest) ←
          match ending with
          | .otherwise => do
            let (other, ending, rest) ← body? bound rest
            some (some other, ending, rest)
          | ending => some (none, ending, rest)
        if ending = .close name then
          let node ← blockNode? name arguments inner other
          let (nodes, ending, rest) ← body? bound rest
          return (node :: nodes, ending, rest)
        else none
    | inside =>
      if String.ofList inside == "else" then some ([], .otherwise, ts)
      else do
        let node ←
          match tagWords inside with
          | [path] => (reference? path).map Node.value
          | name :: _ => some (.unknown name)
          | [] => none
        let (nodes, ending, rest) ← body? bound ts
        return (node :: nodes, ending, rest)

/-- The template of a text; none if a tag is broken or not closed. -/
def read? (s : String) : Option Template := do
  let ts ← tokens? (s.length + 1) true [] s.toList
  let (nodes, ending, _) ← body? (ts.length + 1) ts
  if ending = .finish then return nodes else none

end CodeJudge.Template
