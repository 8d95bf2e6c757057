import CodeJudge.Yaml.Node
import CodeJudge.Yaml.Token.Lexer
/-!
Building nodes from tokens. A text holds at most one document; one without content is a place
where nothing is written. Each reader takes a bound on the depth of its own recursion.
-/
namespace CodeJudge.Yaml

/-- The tokens that are left, and what names stand for in the document. -/
structure Reading where
  tokens : List Token
  /-- The nodes under anchors, the latest first. -/
  anchors : List (String × Node)
  /-- What short forms of tags stand for. -/
  handles : List (String × String)

abbrev Build := StateT Reading Option

namespace Build

def peek : Build (Option Token) := return (← get).tokens.head?

def skip : Build Unit := modify fun r => { r with tokens := r.tokens.drop 1 }

/-- Takes the given token if it comes next. -/
def accept (t : Token) : Build Bool := do
  if (← peek) == some t then
    skip
    return true
  else return false

def expect (t : Token) : Build Unit := do if !(← accept t) then failure

/-- Whether one of the given tokens comes next. -/
def comes (ts : List Token) : Build Bool := return (← peek).any ts.contains

def anchor? : Build (Option String) := do
  match ← peek with
  | some (.anchor name) =>
    skip
    return some name
  | _ => return none

/-- A tag in its long form. -/
def tag? : Build (Option String) := do
  match ← peek with
  | some (.tag short rest) =>
    skip
    if short == "" then return some rest
    else
      match (← get).handles.lookup short with
      | some long => return some (long ++ rest)
      | none => failure
  | _ => return none

/-- An anchor and a tag in either order, each of which may be missing. -/
def properties : Build (Option String × Option String) := do
  match ← anchor? with
  | some name => return (some name, ← tag?)
  | none =>
    let tag ← tag?
    return (← anchor?, tag)

def declare (name : String) (n : Node) : Build Unit :=
  modify fun r => { r with anchors := (name, n) :: r.anchors }

/-- The node under its tag, if the tag is one of the document's own. -/
def underTag (tag : Option String) (n : Node) : Node :=
  match tag.map String.toList with
  | some ['!'] => .tagged "!" n
  | some ('!' :: name) => .tagged (String.ofList name) n
  | _ => n

mutual
/-- A node; `block` tells whether block collections may stand here, `loose` whether the items of a
sequence may stand no further in than the mapping around it. -/
def node (block loose : Bool) : Nat → Build Node
  | 0 => failure
  | bound + 1 => do
    match ← peek with
    | some (.alias name) =>
      skip
      match (← get).anchors.lookup name with
      | some n => return n
      | none => failure
    | _ =>
      let (anchor, tag) ← properties
      match anchor with
      | none => return underTag tag (← content block loose tag.isSome bound)
      | some name =>
        declare name (.sequence [])
        let n := underTag tag (← content block loose true bound)
        declare name n
        return n

/-- A node behind its anchor and tag; `mayLack` tells whether nothing may stand here. -/
def content (block loose mayLack : Bool) : Nat → Build Node
  | 0 => failure
  | bound + 1 => do
    match ← peek with
    | some (.scalar plain text) =>
      skip
      return .scalar plain text
    | some .openBracket =>
      skip
      return .sequence (← flowItems true bound)
    | some .openBrace =>
      skip
      return .mapping (← flowEntries true bound)
    | some .hyphen =>
      if loose then return .sequence (← looseItems bound)
      else if mayLack then return .nothing
      else failure
    | some .blockSequence =>
      if block then
        skip
        return .sequence (← blockItems bound)
      else if mayLack then return .nothing
      else failure
    | some .blockMapping =>
      if block then
        skip
        return .mapping (← blockEntries bound)
      else if mayLack then return .nothing
      else failure
    | _ => if mayLack then return .nothing else failure

/-- A node, or nothing before one of the given tokens or at the end. -/
def nodeUnless (stops : List Token) (block loose : Bool) : Nat → Build Node
  | 0 => failure
  | bound + 1 => do if ← comes stops then return .nothing else node block loose bound

/-- The items of a block sequence up to its end. -/
def blockItems : Nat → Build (List Node)
  | 0 => failure
  | bound + 1 => do
    if ← accept .hyphen then
      let n ← nodeUnless [.hyphen, .blockEnd] true false bound
      return n :: (← blockItems bound)
    else
      expect .blockEnd
      return []

/-- The items of a sequence that stands no further in than the mapping around it. -/
def looseItems : Nat → Build (List Node)
  | 0 => failure
  | bound + 1 => do
    if ← accept .hyphen then
      let n ← nodeUnless [.hyphen, .key, .value, .blockEnd] true false bound
      return n :: (← looseItems bound)
    else return []

/-- The entries of a block mapping up to its end. -/
def blockEntries : Nat → Build (List (Node × Node))
  | 0 => failure
  | bound + 1 => do
    if ← accept .key then
      let stops : List Token := [.key, .value, .blockEnd]
      let k ← nodeUnless stops true true bound
      let v ← if ← accept .value then nodeUnless stops true true bound else pure .nothing
      return (k, v) :: (← blockEntries bound)
    else
      expect .blockEnd
      return []

/-- The items of a flow sequence up to its end; a single pair stands for a mapping. -/
def flowItems (isFirst : Bool) : Nat → Build (List Node)
  | 0 => failure
  | bound + 1 => do
    if ← accept .closeBracket then return []
    if !isFirst then expect .comma
    if ← accept .closeBracket then return []
    if ← accept .key then
      let n ← flowPair bound
      return n :: (← flowItems false bound)
    else
      let n ← node false false bound
      return n :: (← flowItems false bound)

/-- A single pair in a flow sequence, after the mark of its key. -/
def flowPair : Nat → Build Node
  | 0 => failure
  | bound + 1 => do
    let k ←
      if ← comes [.value, .comma, .closeBracket] then
        skip
        pure .nothing
      else node false false bound
    let v ←
      if ← accept .value then nodeUnless [.comma, .closeBracket] false false bound
      else pure .nothing
    return .mapping [(k, v)]

/-- The entries of a flow mapping up to its end. A key without a mark has no value. -/
def flowEntries (isFirst : Bool) : Nat → Build (List (Node × Node))
  | 0 => failure
  | bound + 1 => do
    if ← accept .closeBrace then return []
    if !isFirst then expect .comma
    if ← accept .closeBrace then return []
    if ← accept .key then
      let k ← nodeUnless [.value, .comma, .closeBrace] false false bound
      let v ←
        if ← accept .value then nodeUnless [.comma, .closeBrace] false false bound
        else pure .nothing
      return (k, v) :: (← flowEntries false bound)
    else
      let k ← node false false bound
      return (k, .nothing) :: (← flowEntries false bound)
end

/-- The short forms of tags that every document knows. -/
def standardHandles : List (String × String) := [("!", "!"), ("!!", "tag:yaml.org,2002:")]

/-- The directives in front of a document; each may stand once. -/
def directives (hasVersion : Bool) : Nat → Build Unit
  | 0 => failure
  | bound + 1 => do
    match ← peek with
    | some (.version major minor) =>
      skip
      if hasVersion || major != 1 || (minor != 1 && minor != 2) then failure
      directives true bound
    | some (.handle short long) =>
      skip
      if ((← get).handles.lookup short).isSome then failure
      modify fun r => { r with handles := (short, long) :: r.handles }
      directives hasVersion bound
    | _ => return ()

/-- The only document of a text. -/
def document (bound : Nat) : Build Node := do
  let n ←
    match ← peek with
    | none => return .nothing
    | some (.version _ _) | some (.handle _ _) | some .documentStart => do
      directives false bound
      modify fun r => { r with handles := r.handles ++ standardHandles }
      expect .documentStart
      match ← peek with
      | none | some (.version _ _) | some (.handle _ _) | some .documentStart
      | some .documentEnd => pure .nothing
      | _ => node true false bound
    | _ => do
      modify fun r => { r with handles := standardHandles }
      node true false bound
  modify fun r => { r with tokens := r.tokens.dropWhile (· == .documentEnd) }
  if (← peek).isSome then failure
  return n

end Build

/-- The node of a text with at most one document. -/
def Node.ofTokens? (ts : List Token) : Option Node :=
  ((Build.document (4 * ts.length + 4)).run ⟨ts, [], []⟩).map (·.1)

/-- The node of a text. -/
def read? (s : String) : Option Node := (Token.ofText? s).bind Node.ofTokens?

end CodeJudge.Yaml
