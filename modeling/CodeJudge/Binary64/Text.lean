import CodeJudge.Binary64.Shortest
/-!
The text of a floating-point number. Every form writes the shortest decimal; a form says which
exponents are written positionally, how a whole number and an exponent look, and what stands for
the values that are no numbers.
-/
namespace CodeJudge.Binary64

/-- A way to write floating-point numbers. -/
structure Form where
  /-- The least decimal exponent that is written positionally. -/
  least : Int
  /-- The first decimal exponent that is not. -/
  limit : Int
  /-- Whether a positive exponent carries a sign. -/
  plus : Bool
  tie : Tie
  infinity : String
  minusInfinity : String
  notANumber : String
  deriving DecidableEq, Repr

/-- Numbers inside JSON text; what JSON cannot say is `null`. -/
def Form.json : Form := ⟨-5, 16, true, .even, "null", "null", "null"⟩

/-- Literals of the generated programs. -/
def Form.literal : Form := ⟨-4, 16, false, .up, "inf", "-inf", "NaN"⟩

/-- The digits of a natural number in base ten. -/
def decimalDigits (n : Nat) : List Char := Nat.toDigits 10 n

/-- Digits with a point so that `exponent` is the power of ten of the first one, always with a
digit on either side. -/
def positional (ds : List Char) (exponent : Int) : List Char :=
  if exponent < 0 then '0' :: '.' :: List.replicate ((-exponent).toNat - 1) '0' ++ ds
  else
    let whole := exponent.toNat + 1
    let front := ds.take whole ++ List.replicate (whole - ds.length) '0'
    match ds.drop whole with
    | [] => front ++ ['.', '0']
    | fraction => front ++ '.' :: fraction

/-- Digits with a point after the first one and an exponent. -/
def scientific (plus : Bool) (ds : List Char) (exponent : Int) : List Char :=
  let mantissa :=
    match ds with
    | [] => ['0']
    | [d] => [d]
    | d :: fraction => d :: '.' :: fraction
  let sign := if exponent < 0 then ['-'] else if plus then ['+'] else []
  mantissa ++ 'e' :: sign ++ decimalDigits exponent.natAbs

/-- A positive decimal in a form. -/
def Decimal.write (d : Decimal) (form : Form) : List Char :=
  let ds := decimalDigits d.digits
  let exponent := d.exponent + ds.length - 1
  if form.least ≤ exponent ∧ exponent < form.limit then positional ds exponent
  else scientific form.plus ds exponent

/-- A number in a form. -/
def write (form : Form) : Binary64 → List Char
  | .nan => form.notANumber.toList
  | .infinite negative => (if negative then form.minusInfinity else form.infinity).toList
  | .finite negative m e =>
    let magnitude := if m = 0 then ['0', '.', '0'] else (shortest form.tie m e).write form
    if negative then '-' :: magnitude else magnitude

/-- A number in a form, as a string. -/
def toText (x : Binary64) (form : Form) : String := String.ofList (x.write form)

end CodeJudge.Binary64
