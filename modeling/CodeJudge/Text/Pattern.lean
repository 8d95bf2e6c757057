import CodeJudge.Text.Word
/-!
Search patterns. What a pattern means is a list: from a place in a text, all the places where a
match can end, the preferred one first. A search takes the leftmost place with a match and there
the preferred end, so repetition is greedy and an alternative listed first wins.
-/
namespace CodeJudge.Text

/-- A set of characters. -/
inductive CharSet where
  | only (c : Char)
  /-- A small ASCII letter or any character that folds to it. -/
  | letter (c : Char)
  | digit
  | word
  | blank
  | any
  | oneOf (cs : List Char)
  | union (a b : CharSet)
  | outside (a : CharSet)
  deriving Repr, DecidableEq

/-- The small ASCII letter that a character folds to, if it is one; others stay. -/
def foldCase (c : Char) : Char :=
  if c.toNat == 0x17F then 's' else if c.toNat == 0x212A then 'k' else c.toLower

/-- Membership in a set of characters. -/
def CharSet.has : CharSet → Char → Bool
  | .only d, c => c == d
  | .letter d, c => foldCase c == d
  | .digit, c => isDigit c
  | .word, c => isWord c
  | .blank, c => isBlank c
  | .any, _ => true
  | .oneOf ds, c => ds.contains c
  | .union a b, c => a.has c || b.has c
  | .outside a, c => !a.has c

/-- A search pattern. -/
inductive Pattern where
  | nothing
  | one (set : CharSet)
  /-- As many characters of the set as possible, or fewer, or none. -/
  | many (set : CharSet)
  | both (a b : Pattern)
  | either (a b : Pattern)
  /-- As many rounds as possible, or fewer, or none; a round must take a character. -/
  | rounds (a : Pattern)
  /-- Remembers what was taken under a number. -/
  | group (n : Nat) (a : Pattern)
  | wordEdge
  | lineStart
  | textStart
  | textEnd
  deriving Repr, DecidableEq

/-- A place in a text: the character before it, what follows, and the groups taken so far. -/
structure Place where
  before : Option Char
  rest : List Char
  groups : List (Nat × List Char)
  deriving Repr, DecidableEq

namespace Place

/-- The start of a text. -/
def start (cs : List Char) : Place := ⟨none, cs, []⟩

/-- What lies between a place and a later one. -/
def upTo (a b : Place) : List Char := a.rest.take (a.rest.length - b.rest.length)

/-- Whether exactly one of the two neighbours is a word character. -/
def atWordEdge (a : Place) : Bool := a.before.any isWord != a.rest.head?.any isWord

/-- The text of a group. -/
def group? (a : Place) (n : Nat) : Option (List Char) := a.groups.lookup n

end Place

namespace Pattern

/-- The ends of a run of characters of `set`, the longest first, in front of `shorter`. -/
def manyEnds (set : CharSet) (groups : List (Nat × List Char)) (shorter : List Place)
    (before : Option Char) : List Char → List Place
  | [] => ⟨before, [], groups⟩ :: shorter
  | c :: cs =>
    if set.has c then manyEnds set groups (⟨before, c :: cs, groups⟩ :: shorter) (some c) cs
    else ⟨before, c :: cs, groups⟩ :: shorter

/-- The ends of at most `bound` rounds, those of more rounds first. -/
def roundsEnds (step : Place → List Place) : Nat → Place → List Place
  | 0, a => [a]
  | bound + 1, a =>
    ((step a).filter fun b => b.rest.length < a.rest.length).flatMap (roundsEnds step bound) ++ [a]

/-- The places where a match from `a` can end, the preferred one first. -/
def ends : Pattern → Place → List Place
  | nothing, a => [a]
  | one set, a =>
    match a.rest with
    | [] => []
    | c :: cs => if set.has c then [⟨some c, cs, a.groups⟩] else []
  | many set, a => manyEnds set a.groups [] a.before a.rest
  | both p q, a => (p.ends a).flatMap q.ends
  | either p q, a => p.ends a ++ q.ends a
  | rounds p, a => roundsEnds p.ends a.rest.length a
  | group n p, a => (p.ends a).map fun b => { b with groups := (n, a.upTo b) :: b.groups }
  | wordEdge, a => if a.atWordEdge then [a] else []
  | lineStart, a => if a.before.all (· == '\n') then [a] else []
  | textStart, a => if a.before.isNone then [a] else []
  | textEnd, a => if a.rest.isEmpty then [a] else []

/-- The preferred end of a match that starts here. -/
def match? (p : Pattern) (a : Place) : Option Place := (p.ends a).head?

/-- The leftmost match from a place on: the characters passed over and the end. -/
def findFrom (p : Pattern) (before : Option Char) : List Char → Option (List Char × Place)
  | [] => (p.match? ⟨before, [], []⟩).map (([], ·))
  | c :: cs =>
    match p.match? ⟨before, c :: cs, []⟩ with
    | some b => some ([], b)
    | none => (p.findFrom (some c) cs).map fun (passed, b) => (c :: passed, b)

/-- Whether the pattern has a match anywhere in the text. -/
def occurs (p : Pattern) (s : String) : Bool := (p.findFrom none s.toList).isSome

/-- The first group of the leftmost match. -/
def capture? (p : Pattern) (s : String) : Option String := do
  let (_, b) ← p.findFrom none s.toList
  let taken ← b.group? 1
  return String.ofList taken

/-- The matches one after the other, at most `bound` of them, each searched for where the one
before ended. -/
def findAllFrom (p : Pattern) : Nat → Option Char → List Char → List (List Char × Place)
  | 0, _, _ => []
  | bound + 1, before, cs =>
    match p.findFrom before cs with
    | none => []
    | some (passed, b) => (passed, b) :: p.findAllFrom bound b.before b.rest

/-- All matches that do not overlap, from left to right, for a pattern that takes a character. -/
def findAll (p : Pattern) (s : String) : List (List Char × Place) :=
  p.findAllFrom s.length none s.toList

/-- The text with every match replaced by what `f` makes of its end. -/
def replaceAll (p : Pattern) (f : Place → List Char) (s : String) : String :=
  let found := p.findAll s
  let tail := found.getLast?.map (·.2.rest) |>.getD s.toList
  String.ofList (found.flatMap (fun (passed, b) => passed ++ f b) ++ tail)

/-- Patterns one after the other. -/
def all (ps : List Pattern) : Pattern := ps.foldr both nothing

/-- One of several patterns, the first that fits. -/
def oneOf : List Pattern → Pattern
  | [] => nothing
  | [p] => p
  | p :: ps => either p (oneOf ps)

/-- One or more characters of a set, as many as possible. -/
def run (set : CharSet) : Pattern := both (one set) (many set)

/-- A pattern or nothing. -/
def optional (p : Pattern) : Pattern := either p nothing

/-- A text as it stands. -/
def text (s : String) : Pattern := all (s.toList.map fun c => one (.only c))

/-- A text in small letters, found in any letter case. -/
def anyCase (s : String) : Pattern :=
  all (s.toList.map fun c => one (if c.isLower then .letter c else .only c))

end Pattern

end CodeJudge.Text
