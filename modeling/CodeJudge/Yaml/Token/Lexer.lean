import CodeJudge.Yaml.Token
import CodeJudge.Yaml.Token.Scalar
/-!
Cutting a YAML text into tokens. A key is recognized by the colon behind it, so the place of each
node that may turn out to be a key is kept until its line ends; the token of the key is then put
in front of it.
-/
namespace CodeJudge.Yaml

/-- A place where a key may have started. -/
structure KeyStart where
  /-- How many tokens come before it. -/
  position : Nat
  /-- Whether only a key may stand there. -/
  isRequired : Bool
  line : Nat
  column : Nat
  index : Nat
  deriving Repr

/-- Whether a key can no longer end here: it must end on its line and within 1024 characters. -/
def KeyStart.isStale (k : KeyStart) (c : Cursor) : Bool :=
  k.line < c.line || k.index + 1024 < c.index

/-- A text that is cut into tokens up to a place. -/
structure Lexer where
  cursor : Cursor
  /-- The tokens so far, the latest first. -/
  tokens : List Token
  /-- The least column that content of the innermost block collection may have, one more than its
  own; nothing without a collection. -/
  margin : Nat
  /-- The margins of the collections around that one. -/
  margins : List Nat
  /-- For each open flow collection and for the block around them where a key may have started,
  the innermost first. -/
  keys : List (Option KeyStart)
  /-- Whether a key or an item may start here. -/
  mayStart : Bool
  deriving Repr

namespace Lexer

def start (cs : List Char) : Lexer := ⟨.start cs, [], 0, [], [none], true⟩

def inFlow (l : Lexer) : Bool := 1 < l.keys.length

/-- The lexer behind a token. -/
def emit (l : Lexer) (t : Token) (cursor : Cursor) : Lexer :=
  { l with tokens := t :: l.tokens, cursor := cursor }

/-- Puts a token in front of all tokens from a position on. -/
def insertAt (l : Lexer) (position : Nat) (t : Token) : Lexer :=
  let later := l.tokens.length - position
  { l with tokens := l.tokens.take later ++ t :: l.tokens.drop later }

/-- Skips space, comments and line ends up to the next token. A tab does not count as space where
a key may start. -/
def skipToToken : Nat → Lexer → Lexer
  | 0, l => l
  | bound + 1, l =>
    let c := l.cursor
    let c := if c.column = 0 ∧ c.rest.head? = some '\ufeff' then c.skip 1 else c
    let c := c.skipWhile fun d => d == ' ' || (d == '\t' && (l.inFlow || !l.mayStart))
    let c := c.skipComment
    if c.rest.head?.any isBreak then
      skipToToken bound { l with cursor := c.skipBreak, mayStart := l.mayStart || !l.inFlow }
    else { l with cursor := c }

/-- Gives up the places where a key can no longer end; none if there had to be one. -/
def dropStale? (l : Lexer) : Option Lexer := do
  let keys ← l.keys.mapM fun
    | none => some none
    | some k =>
      if !k.isStale l.cursor then some (some k)
      else if k.isRequired then none
      else some none
  return { l with keys := keys }

/-- Gives up the innermost place where a key may have started; none if there had to be one. -/
def dropKey? (l : Lexer) : Option Lexer :=
  match l.keys with
  | [] => none
  | some ⟨_, true, _, _, _⟩ :: _ => none
  | _ :: outer => some { l with keys := none :: outer }

/-- Keeps the place as one where a key may start. -/
def keepKey? (l : Lexer) : Option Lexer :=
  if l.mayStart then do
    let l ← l.dropKey?
    let c := l.cursor
    let key : KeyStart :=
      ⟨l.tokens.length, !l.inFlow && l.margin == c.column + 1, c.line, c.column, c.index⟩
    return { l with keys := some key :: l.keys.drop 1 }
  else some l

/-- Closes the block collections with a margin over `least`. -/
def closeBlocks (l : Lexer) (least : Nat) : Lexer :=
  let rec close (tokens : List Token) (margin : Nat) : List Nat → List Token × Nat × List Nat
    | [] => (tokens, margin, [])
    | outer :: margins =>
      if least < margin then close (.blockEnd :: tokens) outer margins
      else (tokens, margin, outer :: margins)
  if l.inFlow then l
  else
    let (tokens, margin, margins) := close l.tokens l.margin l.margins
    { l with tokens := tokens, margin := margin, margins := margins }

/-- Opens a block collection at a column, if it is further in than the one around it. -/
def openBlock (l : Lexer) (column position : Nat) (t : Token) : Lexer :=
  if l.inFlow || column < l.margin then l
  else { l.insertAt position t with margin := column + 1, margins := l.margin :: l.margins }

/-- The end of the document before: all blocks are closed, and no key may start. -/
def endDocument? (l : Lexer) : Option Lexer := do
  let l ← (l.closeBlocks 0).dropKey?
  return { l with mayStart := false }

def isNameChar (c : Char) : Bool := c.isAlphanum || c == '_' || c == '-'

/-- The number of a version, and what follows it. -/
def versionNumber? (cs : List Char) : Option (Nat × List Char) :=
  let ds := cs.takeWhile Char.isDigit
  if ds.length ≤ 9 then (natIn? 10 ds).map (·, cs.drop ds.length) else none

/-- The short form of tags with its exclamation marks. -/
def handleText? (isDirective : Bool) (cs : List Char) : Option (List Char) :=
  match cs with
  | '!' :: cs =>
    let name := cs.takeWhile isNameChar
    if (cs.drop name.length).head? == some '!' then some ('!' :: name ++ ['!'])
    else if isDirective && !name.isEmpty then none
    else some ('!' :: name)
  | _ => none

/-- The characters of the long form of a tag. -/
def isTagChar (inBrackets : Bool) (c : Char) : Bool :=
  isNameChar c || [';', '/', '?', ':', '@', '&', '=', '+', '$', '.', '%', '!', '~', '*', '\'', '(',
    ')'].contains c || (inBrackets && [',', '[', ']'].contains c)

/-- A directive and what follows it on its line. -/
def directive? (cs : List Char) : Option (Token × List Char) := do
  let name := cs.takeWhile isNameChar
  let cs := cs.drop name.length
  if !endsWord cs then none
  let cs := cs.dropWhile isGap
  if String.ofList name == "YAML" then
    let (major, cs) ← versionNumber? cs
    let cs ← ['.'].isPrefixOf? cs
    let (minor, cs) ← versionNumber? cs
    return (.version major minor, cs)
  else if String.ofList name == "TAG" then
    let short ← handleText? true cs
    let cs := cs.drop short.length
    let long := (cs.dropWhile isGap).takeWhile (isTagChar true)
    let rest := (cs.dropWhile isGap).drop long.length
    if cs.head?.any isGap && !long.isEmpty && endsWord rest then
      return (.handle (String.ofList short) (String.ofList long), rest)
    else none
  else none

/-- The lexer behind a directive and its line. -/
def lexDirective? (l : Lexer) : Option Lexer := do
  let l ← l.endDocument?
  let c := l.cursor.skip 1
  let (t, rest) ← directive? c.rest
  let c := (c.skip (c.rest.length - rest.length)).skipWhile isGap |>.skipComment
  if c.rest.head?.all isBreak then return l.emit t (if c.rest.isEmpty then c else c.skipBreak)
  else none

/-- The lexer behind the opening mark of a flow collection. -/
def lexOpening? (l : Lexer) (t : Token) : Option Lexer := do
  let l ← l.keepKey?
  return { l.emit t (l.cursor.skip 1) with keys := none :: l.keys, mayStart := true }

/-- The lexer behind the closing mark of a flow collection. -/
def lexClosing? (l : Lexer) (t : Token) : Option Lexer := do
  let l ← l.dropKey?
  return { l.emit t (l.cursor.skip 1) with
    keys := if l.inFlow then l.keys.drop 1 else l.keys
    mayStart := false }

def lexComma? (l : Lexer) : Option Lexer := do
  let l ← l.dropKey?
  return { l.emit .comma (l.cursor.skip 1) with mayStart := true }

def lexHyphen? (l : Lexer) : Option Lexer := do
  if !l.inFlow && !l.mayStart then none
  let l ← (l.openBlock l.cursor.column l.tokens.length .blockSequence).dropKey?
  return { l.emit .hyphen (l.cursor.skip 1) with mayStart := true }

/-- The lexer behind a question mark, which stands in front of a key of any kind. -/
def lexKey? (l : Lexer) : Option Lexer := do
  if !l.inFlow && !l.mayStart then none
  let l ← (l.openBlock l.cursor.column l.tokens.length .blockMapping).dropKey?
  return { l.emit .key (l.cursor.skip 1) with mayStart := !l.inFlow }

/-- The lexer behind a colon. If a key may have started before it, there was one. -/
def lexValue? (l : Lexer) : Option Lexer :=
  match l.keys with
  | some k :: outer =>
    let l := (l.insertAt k.position .key).openBlock k.column k.position .blockMapping
    some { l.emit .value (l.cursor.skip 1) with keys := none :: outer, mayStart := false }
  | _ =>
    if !l.inFlow && !l.mayStart then none
    else
      let l := l.openBlock l.cursor.column l.tokens.length .blockMapping
      some { l.emit .value (l.cursor.skip 1) with mayStart := !l.inFlow }

/-- The lexer behind the name of an anchor, or of an alias that refers to one. -/
def lexAnchor? (l : Lexer) (token : String → Token) : Option Lexer := do
  let l ← l.keepKey?
  let name := (l.cursor.rest.drop 1).takeWhile isNameChar
  let c := l.cursor.skip (name.length + 1)
  let ends := endsWord c.rest ||
    c.rest.head?.any ['?', ':', ',', ']', '\x7d', '%', '@', '\x60'].contains
  if name.isEmpty || !ends then none
  else return { l.emit (token (String.ofList name)) c with mayStart := false }

/-- A tag, the place where it starts given, and how long it is. -/
def tag? (cs : List Char) : Option (Token × Nat) := do
  match cs with
  | '!' :: '<' :: cs =>
    let uri := cs.takeWhile (isTagChar true)
    if uri.isEmpty || (cs.drop uri.length).head? != some '>' then none
    else return (.tag "" (String.ofList uri), uri.length + 3)
  | cs =>
    let short ← handleText? false cs
    let rest := (cs.drop short.length).takeWhile (isTagChar false)
    if 1 < short.length && short.getLast? == some '!' then
      if rest.isEmpty then none
      else return (.tag (String.ofList short) (String.ofList rest), short.length + rest.length)
    else
      let name := short.drop 1 ++ rest
      if name.isEmpty then return (.tag "" "!", 1)
      else return (.tag "!" (String.ofList name), name.length + 1)

def lexTag? (l : Lexer) : Option Lexer := do
  let l ← l.keepKey?
  let (t, length) ← tag? l.cursor.rest
  let c := l.cursor.skip length
  if endsWord c.rest || (l.inFlow && c.rest.head? == some ',') then
    return { l.emit t c with mayStart := false }
  else none

/-- The lexer behind a block scalar, after which a key may start. -/
def lexBlock? (l : Lexer) (folded : Bool) : Option Lexer := do
  let l ← l.dropKey?
  let (text, c) ← blockText? folded l.margin (l.cursor.skip 1)
  return { l.emit (.scalar false (String.ofList text)) c with mayStart := true }

def lexQuoted? (l : Lexer) (double : Bool) : Option Lexer := do
  let l ← l.keepKey?
  let (text, c) ← quotedText? double (l.cursor.rest.length + 1) (l.cursor.skip 1)
  return { l.emit (.scalar false (String.ofList text)) c with mayStart := false }

def lexPlain? (l : Lexer) : Option Lexer := do
  let l ← l.keepKey?
  let (text, afterBreak, c) ←
    plainText? l.inFlow l.margin (l.cursor.rest.length + 1) [] false l.cursor
  return { l.emit (.scalar true (String.ofList text)) c with mayStart := afterBreak }

/-- The characters with which a plain scalar cannot start. -/
def indicators : List Char :=
  ['-', '?', ':', ',', '[', ']', '\x7b', '\x7d', '#', '&', '*', '!', '|', '>', '\'', '"', '%', '@',
    '\x60']

/-- The lexer behind the token that starts with the given characters. -/
def lexToken? (l : Lexer) (c : Char) (cs : List Char) : Option Lexer :=
  let mark := l.cursor.isAtMark
  if c == '%' && l.cursor.column == 0 then l.lexDirective?
  else if mark '-' then do
    let l ← l.endDocument?
    return l.emit .documentStart (l.cursor.skip 3)
  else if mark '.' then do
    let l ← l.endDocument?
    return l.emit .documentEnd (l.cursor.skip 3)
  else if c == '[' then l.lexOpening? .openBracket
  else if c == '\x7b' then l.lexOpening? .openBrace
  else if c == ']' then l.lexClosing? .closeBracket
  else if c == '\x7d' then l.lexClosing? .closeBrace
  else if c == ',' then l.lexComma?
  else if c == '-' && endsWord cs then l.lexHyphen?
  else if c == '?' && (l.inFlow || endsWord cs) then l.lexKey?
  else if c == ':' && (l.inFlow || endsWord cs) then l.lexValue?
  else if c == '*' then l.lexAnchor? .alias
  else if c == '&' then l.lexAnchor? .anchor
  else if c == '!' then l.lexTag?
  else if c == '|' && !l.inFlow then l.lexBlock? false
  else if c == '>' && !l.inFlow then l.lexBlock? true
  else if c == '\'' then l.lexQuoted? false
  else if c == '"' then l.lexQuoted? true
  else if c == '-' || (!l.inFlow && (c == '?' || c == ':')) then l.lexPlain?
  else if isGap c || indicators.contains c then none
  else l.lexPlain?

/-- The tokens up to the end of the text. -/
def run? : Nat → Lexer → Option (List Token)
  | 0, _ => none
  | bound + 1, l => do
    let l ← (skipToToken (l.cursor.rest.length + 1) l).dropStale?
    let l := l.closeBlocks (l.cursor.column + 1)
    match l.cursor.rest with
    | [] =>
      let l ← (l.closeBlocks 0).dropKey?
      return l.tokens.reverse
    | c :: cs => run? bound (← l.lexToken? c cs)

end Lexer

/-- The tokens of a text. -/
def Token.ofText? (s : String) : Option (List Token) :=
  let cs := s.toList
  if cs.all isAllowed then Lexer.run? (cs.length + 2) (.start (unifyBreaks cs)) else none

end CodeJudge.Yaml
