import CodeJudge.Scalar
import CodeJudge.Json.Printer
import CodeJudge.Binary64.Reader
/-!
What a JSON value is taken for where a program needs a scalar of a given type. Every value stands
for some scalar of every type, so a literal can always be written.
-/
namespace CodeJudge.Literal

/-- The signed integer of 64 bits that a whole text stands for. -/
def int64Of? (cs : List Char) : Option Int :=
  let (negative, ds) := Binary64.readSign cs
  if ds.isEmpty || !ds.all Char.isDigit then none
  else
    let n : Int := Binary64.natOf ds
    let i := if negative then -n else n
    if -0x8000000000000000 ≤ i ∧ i < 0x8000000000000000 then some i else none

/-- A value as an integer: fractions are cut off, and what is no number counts as zero. -/
def toInt : Json.Value → Int
  | .number (.int i) => i
  | .number (.float x) => x.truncate
  | .bool b => if b then 1 else 0
  | .string s => (int64Of? (Text.trimmed s.toList)).getD 0
  | _ => 0

/-- A value as a floating-point number; what is no number counts as zero. -/
def toBinary64 : Json.Value → Binary64
  | .number n => n.toBinary64
  | .string s => (Binary64.ofText? (Text.trim s)).getD .zero
  | _ => .zero

/-- A value as a truth value: a number other than zero and the word `true` hold. -/
def toBool : Json.Value → Bool
  | .bool b => b
  | .number (.int i) => i != 0
  | .number (.float x) => !x.isZero
  | .string s => Text.lowerAscii s == "true"
  | _ => false

/-- A value as a text: its JSON text unless it is one. -/
def toText : Json.Value → String
  | .string s => s
  | .null => ""
  | v => v.toText

/-- A value as an ASCII character: the first of its text, or else a space. -/
def toChar (v : Json.Value) : Char :=
  match (toText v).toList with
  | c :: _ => if c.toNat < 128 then c else ' '
  | [] => ' '

/-- The items of a value as a list; one that is no array is its only item. -/
def toItems : Json.Value → List Json.Value
  | .array items => items
  | .null => []
  | v => [v]

/-- An integer in base ten. -/
def intText (i : Int) : String := String.ofList (Json.writeInt i)

/-- A floating-point literal. -/
def doubleText (v : Json.Value) : String := (toBinary64 v).toText .literal

def boolText (v : Json.Value) : String := if toBool v then "true" else "false"

/-- A number below 512 as three octal digits. -/
def octal3 (n : Nat) : List Char :=
  [Nat.digitChar (n / 64 % 8), Nat.digitChar (n / 8 % 8), Nat.digitChar (n % 8)]

/-- The escapes that both languages with typed literals share, inside the given quotes: three
octal digits never take in a digit that follows. -/
def escapeCommon? (quote c : Char) : Option (List Char) :=
  if c == '\\' || c == quote then some ['\\', c]
  else if c == '\n' then some ['\\', 'n']
  else if c == '\r' then some ['\\', 'r']
  else if c == '\t' then some ['\\', 't']
  else if c.toNat < 0x20 then some ('\\' :: octal3 c.toNat)
  else none

end CodeJudge.Literal
