import CodeJudge.Yaml.Cursor
import CodeJudge.Yaml.Number
/-!
The texts of YAML scalars: plain ones, quoted ones and blocks. A margin is the least column that
content of the block around a scalar may have.
-/
namespace CodeJudge.Yaml

/-- What space inside a plain or quoted scalar stands for: without a line end for itself, with one
line feed for a space, with more for all of them but the first. -/
def foldedGap (gap : List Char) : List Char :=
  match gap.filter isBreak with
  | [] => gap
  | ['\n'] => [' ']
  | '\n' :: more => more
  | breaks => breaks

def isFlowMark (c : Char) : Bool := [',', '[', ']', '\x7b', '\x7d'].contains c

/-- The characters of a plain scalar up to space or to what ends it; none if a colon stands inside
a flow collection where it can neither end the scalar nor belong to it. -/
def plainWord? (flow : Bool) : List Char → Option (List Char)
  | [] => some []
  | c :: cs =>
    if isGapOrBreak c then some []
    else if flow && c == ':' && cs.head?.any fun d => isFlowMark d || d == '?' then none
    else if (c == ':' && endsWord cs) || (flow && isFlowMark c) then some []
    else (plainWord? flow cs).map (c :: ·)

/-- Whether a line after the first has a tab in front of the margin. -/
def hasTabBefore (margin : Nat) (gap : List Char) : Bool :=
  let rec later (column : Nat) : List Char → Bool
    | [] => false
    | c :: cs =>
      if isBreak c then later 0 cs else (c == '\t' && column < margin) || later (column + 1) cs
  later 0 (gap.dropWhile fun c => !isBreak c)

/-- The text of a plain scalar, whether only line ends and space stand between its last word and
the place behind it, and that place. `pending` is the text for the space just taken, which counts
only if a word follows. -/
def plainText? (flow : Bool) (margin : Nat) :
    Nat → (pending : List Char) → (afterBreak : Bool) → Cursor →
      Option (List Char × Bool × Cursor)
  | 0, _, _, _ => none
  | bound + 1, pending, afterBreak, c => do
    if c.isAtAnyMark || c.rest.head? == some '#' then return ([], afterBreak, c)
    let word ← plainWord? flow c.rest
    if word.isEmpty then return ([], afterBreak, c)
    let c := c.skip word.length
    let gap := c.gap
    if hasTabBefore margin gap then none
    let behind := c.skipGap
    let afterBreak := gap.any isBreak
    if gap.isEmpty || (!flow && behind.column < margin) then
      return (pending ++ word, afterBreak, behind)
    let (more, afterBreak, c) ← plainText? flow margin bound (foldedGap gap) afterBreak behind
    return (pending ++ word ++ more, afterBreak, c)

/-- What a letter after a backslash stands for. -/
def escaped? : Char → Option Char
  | '0' => some '\x00'
  | 'a' => some '\x07'
  | 'b' => some '\x08'
  | 't' => some '\t'
  | '\t' => some '\t'
  | 'n' => some '\n'
  | 'v' => some '\x0b'
  | 'f' => some '\x0c'
  | 'r' => some '\r'
  | 'e' => some '\x1b'
  | ' ' => some ' '
  | '"' => some '"'
  | '/' => some '/'
  | '\\' => some '\\'
  | 'N' => some '\u0085'
  | '_' => some '\u00a0'
  | 'L' => some '\u2028'
  | 'P' => some '\u2029'
  | _ => none

/-- How many digits in base sixteen follow a letter after a backslash. -/
def hexLength? : Char → Option Nat
  | 'x' => some 2
  | 'u' => some 4
  | 'U' => some 8
  | _ => none

/-- The character of an escape, of which the backslash is taken, and the length of the escape. -/
def escape? : List Char → Option (Char × Nat)
  | [] => none
  | c :: cs =>
    match escaped? c with
    | some d => some (d, 1)
    | none => do
      let n ← hexLength? c
      let code ← natIn? 16 (cs.take n)
      if (cs.take n).length = n ∧ code.isValidChar then some (Char.ofNat code, n + 1) else none

/-- The text of a quoted scalar after its opening quote, and the place behind the closing one. In
double quotes a backslash escapes, and one at the end of a line takes the line end away; in single
quotes a quote is written twice. -/
def quotedText? (double : Bool) : Nat → Cursor → Option (List Char × Cursor)
  | 0, _ => none
  | bound + 1, c =>
    if c.isAtAnyMark then none
    else
      match c.rest with
      | [] => none
      | d :: cs =>
        if isGapOrBreak d then
          (quotedText? double bound c.skipGap).map fun (s, e) => (foldedGap c.gap ++ s, e)
        else if double && d == '\\' then
          if cs.head?.any isBreak then
            let c := (c.skip 1).skipBreak
            (quotedText? double bound c.skipGap).map fun (s, e) => (c.gap.filter isBreak ++ s, e)
          else do
            let (x, n) ← escape? cs
            let (s, e) ← quotedText? double bound (c.skip (n + 1))
            return (x :: s, e)
        else if d == (if double then '"' else '\'') then
          if !double && cs.head? == some '\'' then
            (quotedText? double bound (c.skip 2)).map fun (s, e) => ('\'' :: s, e)
          else some ([], c.skip 1)
        else (quotedText? double bound (c.skip 1)).map fun (s, e) => (d :: s, e)

/-- What becomes of the line ends behind a block. -/
inductive Chomp where
  | clip
  | strip
  | keep
  deriving DecidableEq, Repr

/-- The header of a block after its mark: the chomping, a given indentation, and the place where
the first line starts. -/
def blockHeader? (c : Cursor) : Option (Chomp × Option Nat × Cursor) := do
  let chomp? (c : Cursor) : Option Chomp × Cursor :=
    match c.rest with
    | '+' :: _ => (some .keep, c.skip 1)
    | '-' :: _ => (some .strip, c.skip 1)
    | _ => (none, c)
  let width? (c : Cursor) : Option (Option Nat × Cursor) :=
    match c.rest with
    | d :: _ =>
      if d == '0' then none
      else if d.isDigit then some (some (d.toNat - '0'.toNat), c.skip 1)
      else some (none, c)
    | [] => some (none, c)
  let (first, c) := chomp? c
  let (width, c) ← width? c
  let (chomp, c) := if first.isNone && width.isSome then chomp? c else (first, c)
  let c := (c.skipWhile isGap).skipComment
  match c.rest with
  | [] => return (chomp.getD .clip, width, c)
  | d :: _ => if isBreak d then return (chomp.getD .clip, width, c.skipBreak) else none

/-- The line ends before the next line with content, the greatest column reached before that line,
and the place behind its indentation. A tab may not stand in the indentation. -/
def blockBreaks? (indent : Option Nat) : Nat → Cursor → Option (List Char × Nat × Cursor)
  | 0, _ => none
  | bound + 1, c => do
    let spaces := (c.rest.takeWhile (· == ' ')).length
    let c := c.skip (min spaces ((indent.map (· - c.column)).getD spaces))
    if indent.all (c.column < ·) && c.rest.head? == some '\t' then none
    match c.rest with
    | [] => return ([], c.column, c)
    | d :: _ =>
      if isBreak d then
        let (breaks, reached, e) ← blockBreaks? indent bound c.skipBreak
        return (d :: breaks, max c.column reached, e)
      else return ([], c.column, c)

/-- The content of a block from the first character of a line on. `before` holds the line end in
front of the line, which folding may drop, and the further ones; `wasGap` tells whether the line
before started with space. At the end those line ends are left over. -/
def blockLines? (folded : Bool) (indent : Nat) :
    Nat → (first more : List Char) → (wasGap : Bool) → Cursor →
      Option (List Char × List Char × List Char × Cursor)
  | 0, _, _, _, _ => none
  | bound + 1, first, more, wasGap, c => do
    if c.column ≠ indent ∨ c.rest.isEmpty then return ([], first, more, c)
    let startsGap := c.rest.head?.any isGap
    let joint :=
      if folded && first == ['\n'] && !wasGap && !startsGap then if more.isEmpty then [' '] else []
      else first
    let line := c.rest.takeWhile fun d => !isBreak d
    let c := c.skip line.length
    let lineEnd := c.rest.take 1
    let c := if lineEnd.isEmpty then c else c.skipBreak
    let (breaks, _, c) ← blockBreaks? (some indent) (c.rest.length + 1) c
    let (text, first, rest, c) ← blockLines? folded indent bound lineEnd breaks startsGap c
    return (joint ++ more ++ line ++ text, first, rest, c)

/-- The text of a block after its mark, and the place behind it. Without a given indentation the
block is indented as far as its first line, or the deepest empty one before it. -/
def blockText? (folded : Bool) (margin : Nat) (c : Cursor) : Option (List Char × Cursor) := do
  let (chomp, width, c) ← blockHeader? c
  let given := width.map fun n => if margin = 0 then n else margin - 1 + n
  let (breaks, reached, c) ← blockBreaks? given (c.rest.length + 1) c
  let indent := given.getD (max reached (max margin 1))
  let (text, first, more, c) ← blockLines? folded indent (c.rest.length + 1) [] breaks false c
  match chomp with
  | .strip => return (text, c)
  | .clip => return (text ++ first, c)
  | .keep => return (text ++ first ++ more, c)

end CodeJudge.Yaml
