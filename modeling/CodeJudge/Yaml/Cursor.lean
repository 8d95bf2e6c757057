import CodeJudge.Text.Blank
/-!
Places in a YAML text: what is left of the text, and on which line and in which column it starts.
-/
namespace CodeJudge.Yaml

/-- The characters that a text may hold. -/
def isAllowed (c : Char) : Bool :=
  c == '\t' || c == '\n' || c == '\r' || c == '\u0085' ||
    Text.inRanges [(0x20, 0x7E), (0xA0, 0xFFFD), (0x10000, 0x10FFFF)] c.toNat

/-- The text with a line feed for every line end that is not kept as it is. -/
def unifyBreaks : List Char → List Char
  | [] => []
  | '\r' :: '\n' :: cs => '\n' :: unifyBreaks cs
  | c :: cs => (if c == '\r' || c == '\u0085' then '\n' else c) :: unifyBreaks cs

/-- The characters that end a line. -/
def isBreak (c : Char) : Bool := c == '\n' || c == '\u2028' || c == '\u2029'

def isGap (c : Char) : Bool := c == ' ' || c == '\t'

def isGapOrBreak (c : Char) : Bool := isGap c || isBreak c

/-- Whether nothing follows, or space or a line end. -/
def endsWord (cs : List Char) : Bool := cs.head?.all isGapOrBreak

/-- A place in a text. -/
structure Cursor where
  rest : List Char
  line : Nat
  /-- How many characters are before the place on its line. -/
  column : Nat
  /-- How many characters are before the place. -/
  index : Nat
  deriving Repr

namespace Cursor

/-- The start of a text. -/
def start (cs : List Char) : Cursor := ⟨cs, 0, 0, 0⟩

/-- The place behind some characters of the line. -/
def skip (c : Cursor) (n : Nat) : Cursor :=
  { c with rest := c.rest.drop n, column := c.column + n, index := c.index + n }

/-- The place behind the longest run of characters of `p`, which are no line ends. -/
def skipWhile (c : Cursor) (p : Char → Bool) : Cursor := c.skip (c.rest.takeWhile p).length

/-- The start of the next line, at the end of a line. -/
def skipBreak (c : Cursor) : Cursor := ⟨c.rest.drop 1, c.line + 1, 0, c.index + 1⟩

/-- The place behind a comment, if there is one. -/
def skipComment (c : Cursor) : Cursor :=
  if c.rest.head? == some '#' then c.skipWhile fun c => !isBreak c else c

/-- The space and line ends that come next. -/
def gap (c : Cursor) : List Char := c.rest.takeWhile isGapOrBreak

/-- The place behind the space and line ends that come next. -/
def skipGap (c : Cursor) : Cursor :=
  let gap := c.gap
  let breaks := (gap.filter isBreak).length
  let last := (gap.reverse.takeWhile fun c => !isBreak c).length
  ⟨c.rest.drop gap.length, c.line + breaks, if breaks = 0 then c.column + last else last,
    c.index + gap.length⟩

/-- Whether three such characters stand here as the mark of a document. -/
def isAtMark (c : Cursor) (mark : Char) : Bool :=
  c.column == 0 && c.rest.take 3 == [mark, mark, mark] && endsWord (c.rest.drop 3)

def isAtAnyMark (c : Cursor) : Bool := c.isAtMark '-' || c.isAtMark '.'

end Cursor

end CodeJudge.Yaml
