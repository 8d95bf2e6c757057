import CodeJudge.Binary64
/-!
Reading a decimal: a sign, digits with at most one point among or around them, an exponent; or a
word for infinity or for what is no number. The result is the nearest number there is.
-/
namespace CodeJudge.Binary64

/-- The natural number written by digits in base ten. -/
def natOf (ds : List Char) : Nat := ds.foldl (fun n d => 10 * n + (d.toNat - '0'.toNat)) 0

/-- A sign in front of a text and the text behind it. -/
def readSign : List Char → Bool × List Char
  | '-' :: cs => (true, cs)
  | '+' :: cs => (false, cs)
  | cs => (false, cs)

/-- The exponent that makes up a whole text: nothing, or a mark, a sign and digits. -/
def exponentOf? : List Char → Option Int
  | [] => some 0
  | c :: cs =>
    if c == 'e' || c == 'E' then
      let (negative, ds) := readSign cs
      if ds.isEmpty || !ds.all Char.isDigit then none
      else some (if negative then -(natOf ds : Int) else natOf ds)
    else none

/-- The magnitude that makes up a whole text. -/
def magnitudeOf? (negative : Bool) (cs : List Char) : Option Binary64 :=
  let whole := cs.takeWhile Char.isDigit
  let (fraction, rest) :=
    match cs.dropWhile Char.isDigit with
    | '.' :: cs => (cs.takeWhile Char.isDigit, cs.dropWhile Char.isDigit)
    | cs => ([], cs)
  if whole.isEmpty && fraction.isEmpty then none
  else (exponentOf? rest).map fun e =>
    ofDecimal negative (natOf (whole ++ fraction)) (e - fraction.length)

/-- The number that a whole text stands for. -/
def ofText? (s : String) : Option Binary64 :=
  let (negative, cs) := readSign s.toList
  let word := String.ofList (cs.map Char.toLower)
  if word == "inf" || word == "infinity" then some (.infinite negative)
  else if word == "nan" then some .nan
  else magnitudeOf? negative cs

end CodeJudge.Binary64
