import CodeJudge.Binary64.Reader
import CodeJudge.Json.Outline
import CodeJudge.Json.Value
import CodeJudge.Text.Blank
/-!
Reading JSON text. Every reader takes a prefix of the characters and returns the rest. At most
127 containers may stand inside each other, so a value is read by recursion on the levels left.
What an outline does not ask for is skipped: it follows the grammar, at any depth, but its strings
need not be text and its numbers may be out of range.
-/
namespace CodeJudge.Json

/-- The white space that may stand between tokens. -/
def isSpace (c : Char) : Bool := c == ' ' || c == '\n' || c == '\t' || c == '\r'

def skipSpace (cs : List Char) : List Char := cs.dropWhile isSpace

/-- The value of a digit in base ten. -/
def digitValue (c : Char) : Nat := c.toNat - '0'.toNat

/-- The natural number written by digits in base ten. -/
def natOfDigits (ds : List Char) : Nat := ds.foldl (fun n d => 10 * n + digitValue d) 0

/-- The value of a digit in base sixteen. -/
def hexValue? (c : Char) : Option Nat :=
  if '0' ≤ c ∧ c ≤ '9' then some (c.toNat - '0'.toNat)
  else if 'a' ≤ c ∧ c ≤ 'f' then some (c.toNat - 'a'.toNat + 10)
  else if 'A' ≤ c ∧ c ≤ 'F' then some (c.toNat - 'A'.toNat + 10)
  else none

/-- The value of four digits in base sixteen. -/
def unit? (a b c d : Char) : Option Nat := do
  let a ← hexValue? a
  let b ← hexValue? b
  let c ← hexValue? c
  let d ← hexValue? d
  return ((a * 16 + b) * 16 + c) * 16 + d

/-- What a single letter after a backslash stands for. -/
def escaped? : Char → Option Char
  | '"' => some '"'
  | '\\' => some '\\'
  | '/' => some '/'
  | 'b' => some '\x08'
  | 'f' => some '\x0c'
  | 'n' => some '\n'
  | 'r' => some '\r'
  | 't' => some '\t'
  | _ => none

def isHighSurrogate (n : Nat) : Bool := 0xD800 ≤ n && n < 0xDC00

def isLowSurrogate (n : Nat) : Bool := 0xDC00 ≤ n && n < 0xE000

/-- The character of a pair of surrogates. -/
def joinSurrogates (high low : Nat) : Char :=
  Char.ofNat (0x10000 + (high - 0xD800) * 0x400 + (low - 0xDC00))

/-- The characters of a string after its opening quote, up to the closing one. -/
def readString : List Char → Option (List Char × List Char)
  | [] => none
  | c :: cs =>
    if c == '"' then some ([], cs)
    else if c == '\\' then
      match cs with
      | [] => none
      | e :: cs =>
        match escaped? e with
        | some x => (readString cs).map fun (s, r) => (x :: s, r)
        | none =>
          if e != 'u' then none
          else
            match cs with
            | h1 :: h2 :: h3 :: h4 :: cs =>
              match unit? h1 h2 h3 h4 with
              | none => none
              | some n =>
                if isLowSurrogate n then none
                else if isHighSurrogate n then
                  match cs with
                  | b :: u :: l1 :: l2 :: l3 :: l4 :: cs =>
                    match unit? l1 l2 l3 l4 with
                    | none => none
                    | some m =>
                      if b == '\\' && u == 'u' && isLowSurrogate m then
                        (readString cs).map fun (s, r) => (joinSurrogates n m :: s, r)
                      else none
                  | _ => none
                else (readString cs).map fun (s, r) => (Char.ofNat n :: s, r)
            | _ => none
    else if c.toNat < 0x20 then none
    else (readString cs).map fun (s, r) => (c :: s, r)

/-- The parts of a number as it is written. -/
structure NumberText where
  negative : Bool
  whole : List Char
  fraction : Option (List Char)
  /-- The sign of the exponent and its digits. -/
  exponent : Option (Bool × List Char)
  deriving DecidableEq, Repr

/-- Digits and what follows them. -/
def spanDigits (cs : List Char) : List Char × List Char :=
  (cs.takeWhile Char.isDigit, cs.dropWhile Char.isDigit)

/-- The digits after a point, if there is one; a point needs at least one digit. -/
def readFraction : List Char → Option (Option (List Char) × List Char)
  | '.' :: cs =>
    let (ds, rest) := spanDigits cs
    if ds.isEmpty then none else some (some ds, rest)
  | cs => some (none, cs)

/-- An exponent, if there is one; it needs at least one digit. -/
def readExponent : List Char → Option (Option (Bool × List Char) × List Char)
  | [] => some (none, [])
  | c :: cs =>
    if c == 'e' || c == 'E' then
      let (negative, cs) := Binary64.readSign cs
      let (ds, rest) := spanDigits cs
      if ds.isEmpty then none else some (some (negative, ds), rest)
    else some (none, c :: cs)

/-- A number behind its sign; a zero stands alone in front of the point. -/
def readMagnitude (negative : Bool) (cs : List Char) : Option (NumberText × List Char) :=
  let (whole, cs) := spanDigits cs
  match whole with
  | [] => none
  | '0' :: _ :: _ => none
  | whole =>
    match readFraction cs with
    | none => none
    | some (fraction, cs) =>
      match readExponent cs with
      | none => none
      | some (exponent, cs) => some (⟨negative, whole, fraction, exponent⟩, cs)

/-- A number as it is written. -/
def readNumberText : List Char → Option (NumberText × List Char)
  | '-' :: cs => readMagnitude true cs
  | cs => readMagnitude false cs

/-- Digits taken behind `n` while the number stays below `UInt64.size`, and the digits left over. -/
def takeWord (n : Nat) : List Char → Nat × List Char
  | [] => (n, [])
  | d :: ds =>
    let next := 10 * n + digitValue d
    if next < UInt64.size then takeWord next ds else (n, d :: ds)

/-- A power of ten, rounded. -/
def powerOfTen (n : Nat) : Binary64 := .ofRatio false (Nat.pow 10 n) 1

/-- A number scaled by a power of ten in one step, or in several where the power is below the
least one that can be held; none if the result is too large. -/
def scale : Nat → Binary64 → Int → Option Binary64
  | 0, x, _ => some x
  | steps + 1, x, e =>
    if e.natAbs ≤ 308 then
      let y := if 0 ≤ e then x.mul (powerOfTen e.natAbs) else x.div (powerOfTen e.natAbs)
      if y.isFinite then some y else none
    else if x.isZero then some x
    else if 0 ≤ e then none
    else scale steps (x.div (powerOfTen 308)) (e + 308)

namespace NumberText

/-- The leading digits that fit a word of 64 bits, and the power of ten they stand at. -/
def significand (t : NumberText) : Nat × Int :=
  let (n, left) := takeWord 0 t.whole
  match t.fraction with
  | none => (n, left.length)
  | some ds =>
    let (m, unused) := takeWord n ds
    (m, (left.length : Int) - (ds.length - unused.length : Nat))

def exponentValue (t : NumberText) : Int :=
  match t.exponent with
  | none => 0
  | some (negative, ds) => if negative then -(natOfDigits ds : Int) else natOfDigits ds

/-- The floating-point number: the significand is rounded, then scaled. -/
def toBinary64? (t : NumberText) : Option Binary64 := do
  let (n, e) := t.significand
  let x ← scale 4 (.ofRatio false n 1) (e + t.exponentValue)
  return if t.negative then x.neg else x

/-- An integer if it is written as one and is in range; a negative zero is not an integer. -/
def int? (t : NumberText) : Option Int :=
  if t.fraction.isSome || t.exponent.isSome then none
  else
    let n := natOfDigits t.whole
    if t.negative then if n = 0 ∨ 0x8000000000000000 < n then none else some (-n)
    else if n < UInt64.size then some n else none

def toNumber? (t : NumberText) : Option Number :=
  match t.int? with
  | some i => some (.int i)
  | none => t.toBinary64?.map .float

end NumberText

/-- A value that holds no other one. -/
def readScalar : List Char → Option (Value × List Char)
  | 'n' :: 'u' :: 'l' :: 'l' :: cs => some (.null, cs)
  | 't' :: 'r' :: 'u' :: 'e' :: cs => some (.bool true, cs)
  | 'f' :: 'a' :: 'l' :: 's' :: 'e' :: cs => some (.bool false, cs)
  | '"' :: cs => (readString cs).map fun (s, r) => (.string (String.ofList s), r)
  | cs => do
    let (t, rest) ← readNumberText cs
    let n ← t.toNumber?
    return (.number n, rest)

/-- The text behind a string whose opening quote is taken already. An escape of four digits need
not stand for a character. -/
def skipString : List Char → Option (List Char)
  | [] => none
  | c :: cs =>
    if c == '"' then some cs
    else if c == '\\' then
      match cs with
      | [] => none
      | e :: cs =>
        if (escaped? e).isSome then skipString cs
        else if e != 'u' then none
        else
          match cs with
          | h1 :: h2 :: h3 :: h4 :: cs => if (unit? h1 h2 h3 h4).isSome then skipString cs else none
          | _ => none
    else if c.toNat < 0x20 then none
    else skipString cs

/-- The text behind a value that holds no other one. A number may be of any size. -/
def skipScalar : List Char → Option (List Char)
  | 'n' :: 'u' :: 'l' :: 'l' :: cs => some cs
  | 't' :: 'r' :: 'u' :: 'e' :: cs => some cs
  | 'f' :: 'a' :: 'l' :: 's' :: 'e' :: cs => some cs
  | '"' :: cs => skipString cs
  | cs => (readNumberText cs).map (·.2)

/-- The text behind entries and the character that closes them, at least one of them. -/
def skipEntries (entry : List Char → Option (List Char)) (closing : Char) :
    Nat → List Char → Option (List Char)
  | 0, _ => none
  | bound + 1, cs =>
    match entry cs with
    | none => none
    | some cs =>
      match skipSpace cs with
      | [] => none
      | c :: cs =>
        if c == ',' then skipEntries entry closing bound cs
        else if c == closing then some cs
        else none

/-- The text behind a member, whose value is skipped by `item`. -/
def skipMember (item : List Char → Option (List Char)) (cs : List Char) : Option (List Char) :=
  match skipSpace cs with
  | '"' :: cs =>
    match skipString cs with
    | none => none
    | some cs =>
      match skipSpace cs with
      | ':' :: cs => item cs
      | _ => none
  | _ => none

/-- The text behind a value with less than `bound` containers inside each other. -/
def skipValue : Nat → List Char → Option (List Char)
  | 0, _ => none
  | bound + 1, cs =>
    match skipSpace cs with
    | '[' :: cs =>
      match skipSpace cs with
      | ']' :: cs => some cs
      | cs => skipEntries (skipValue bound) ']' cs.length cs
    | '\x7b' :: cs =>
      match skipSpace cs with
      | '\x7d' :: cs => some cs
      | cs => skipEntries (skipMember (skipValue bound)) '\x7d' cs.length cs
    | cs => skipScalar cs

/-- Items after an opening bracket and before the closing one, at least one of them, from the one
at `position` on. -/
def readItems (item : Nat → List Char → Option (Value × List Char)) (position : Nat) :
    Nat → List Char → Option (List Value × List Char)
  | 0, _ => none
  | bound + 1, cs =>
    match item position cs with
    | none => none
    | some (v, cs) =>
      match skipSpace cs with
      | ',' :: cs => (readItems item (position + 1) bound cs).map fun (vs, r) => (v :: vs, r)
      | ']' :: cs => some ([v], cs)
      | _ => none

/-- A key with its colon. -/
def readKey (cs : List Char) : Option (String × List Char) :=
  match skipSpace cs with
  | '"' :: cs =>
    match readString cs with
    | none => none
    | some (key, cs) =>
      match skipSpace cs with
      | ':' :: cs => some (String.ofList key, cs)
      | _ => none
  | _ => none

/-- Members after an opening brace and before the closing one, at least one of them. A member that
is skipped gives no value. -/
def readMembers (item : String → List Char → Option (Option Value × List Char)) :
    Nat → List Char → Option (List (String × Value) × List Char)
  | 0, _ => none
  | bound + 1, cs =>
    match readKey cs with
    | none => none
    | some (key, cs) =>
      match item key cs with
      | none => none
      | some (v?, cs) =>
        let kept := (v?.map (key, ·)).toList
        match skipSpace cs with
        | ',' :: cs => (readMembers item bound cs).map fun (ms, r) => (kept ++ ms, r)
        | '\x7d' :: cs => some (kept, cs)
        | _ => none

/-- The parts of a value that an outline asks for, in at most `levels` containers inside each
other; what it does not ask for is skipped. -/
def readValue : Nat → Outline → List Char → Option (Value × List Char)
  | 0, _, cs => readScalar (skipSpace cs)
  | levels + 1, o, cs =>
    match skipSpace cs with
    | '[' :: cs =>
      match skipSpace cs with
      | ']' :: cs => some (.array [], cs)
      | cs =>
        (readItems (fun i => readValue levels (o.item i)) 0 cs.length cs).map
          fun (vs, r) => (.array vs, r)
    | '\x7b' :: cs =>
      match skipSpace cs with
      | '\x7d' :: cs => some (.object [], cs)
      | cs =>
        let member (key : String) (cs : List Char) : Option (Option Value × List Char) :=
          match o.member? key with
          | some o => (readValue levels o cs).map fun (v, r) => (some v, r)
          | none => (skipValue cs.length cs).map (none, ·)
        (readMembers member cs.length cs).map fun (ms, r) => (.object ms, r)
    | cs => readScalar cs

/-- How many containers may stand inside each other. -/
def maxDepth : Nat := 127

/-- The parts of a whole text that an outline asks for, members in the order in which they are
written. -/
def readDocument (o : Outline) (cs : List Char) : Option Value :=
  match readValue maxDepth o cs with
  | none => none
  | some (v, rest) => if (skipSpace rest).isEmpty then some v else none

/-- The value of a whole text in its sorted form. -/
def Value.parse? (s : String) : Option Value := (readDocument .whole s.toList).map Value.sorted

end CodeJudge.Json
