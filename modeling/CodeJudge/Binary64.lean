/-!
Binary floating point with 53 significant bits, as exact data: a finite number is a sign, a
mantissa and an exponent of two, so rounding, order and text are questions about natural numbers.
-/
namespace CodeJudge

/-- A floating-point number. A finite one is `mantissa * 2 ^ exponent` with its sign. -/
inductive Binary64 where
  | finite (negative : Bool) (mantissa : Nat) (exponent : Int)
  | infinite (negative : Bool)
  | nan
  deriving DecidableEq, Repr

namespace Binary64

/-- The exponent of the smallest step between two numbers. -/
def leastExponent : Int := -1074

/-- The exponent of the largest step between two numbers. -/
def greatestExponent : Int := 971

def zero : Binary64 := .finite false 0 leastExponent

instance : Inhabited Binary64 := ⟨zero⟩

/-- The numbers that the 64 bits can hold, each in its one form. -/
def Canonical : Binary64 → Prop
  | .finite _ m e =>
    m < 1 <<< 53 ∧ leastExponent ≤ e ∧ e ≤ greatestExponent ∧ (1 <<< 52 ≤ m ∨ e = leastExponent)
  | .infinite _ => True
  | .nan => True

/-- A ratio in units of `2 ^ e`, as a ratio of natural numbers. -/
def inUnits (num den : Nat) (e : Int) : Nat × Nat :=
  if 0 ≤ e then (num, den <<< e.toNat) else (num <<< (-e).toNat, den)

/-- The quotient rounded to the nearest natural number, a half to the even neighbour. -/
def roundDiv (num den : Nat) : Nat :=
  let q := num / den
  let r := num % den
  if den < 2 * r || (2 * r == den && q % 2 == 1) then q + 1 else q

/-- The exponent at which a ratio has 53 bits before the point, or the least there is. -/
def exponentFor (num den : Nat) : Int :=
  let guess : Int := (num.log2 : Int) - den.log2 - 52
  let (n, d) := inUnits num den guess
  max leastExponent (if n / d < 1 <<< 52 then guess - 1 else guess)

/-- The number nearest to a ratio, a tie going to the even mantissa. -/
def ofRatio (negative : Bool) (num den : Nat) : Binary64 :=
  if num = 0 then .finite negative 0 leastExponent
  else
    let e := exponentFor num den
    let (n, d) := inUnits num den e
    let m := roundDiv n d
    let (m, e) := if m = 1 <<< 53 then (1 <<< 52, e + 1) else (m, e)
    if greatestExponent < e then .infinite negative else .finite negative m e

/-- The number nearest to an integer. -/
def ofInt (i : Int) : Binary64 := ofRatio (i < 0) i.natAbs 1

/-- The number nearest to `digits * 10 ^ exponent`. -/
def ofDecimal (negative : Bool) (digits : Nat) (exponent : Int) : Binary64 :=
  let magnitude := exponent + (Nat.toDigits 10 digits).length
  if digits = 0 || magnitude < -330 then .finite negative 0 leastExponent
  else if 310 < magnitude then .infinite negative
  else if 0 ≤ exponent then ofRatio negative (digits * Nat.pow 10 exponent.toNat) 1
  else ofRatio negative digits (Nat.pow 10 (-exponent).toNat)

/-- The product, rounded to the nearest number. -/
def mul : Binary64 → Binary64 → Binary64
  | .finite s m e, .finite t n f =>
    let (num, den) := inUnits (m * n) 1 (-(e + f))
    ofRatio (s != t) num den
  | .nan, _ | _, .nan => .nan
  | .infinite s, .finite t n _ | .finite t n _, .infinite s =>
    if n = 0 then .nan else .infinite (s != t)
  | .infinite s, .infinite t => .infinite (s != t)

/-- The quotient, rounded to the nearest number. -/
def div : Binary64 → Binary64 → Binary64
  | .finite s m e, .finite t n f =>
    if n = 0 then if m = 0 then .nan else .infinite (s != t)
    else
      let (num, den) := inUnits m n (-(e - f))
      ofRatio (s != t) num den
  | .nan, _ | _, .nan => .nan
  | .infinite s, .finite t _ _ => .infinite (s != t)
  | .finite s _ _, .infinite t => .finite (s != t) 0 leastExponent
  | .infinite _, .infinite _ => .nan

/-- The number with the other sign. -/
def neg : Binary64 → Binary64
  | .finite s m e => .finite (!s) m e
  | .infinite s => .infinite (!s)
  | .nan => .nan

def isNaN : Binary64 → Bool
  | .nan => true
  | _ => false

def isFinite : Binary64 → Bool
  | .finite .. => true
  | _ => false

/-- Zero of either sign. -/
def isZero : Binary64 → Bool
  | .finite _ m _ => m == 0
  | _ => false

/-- Below zero; a negative zero is not. -/
def isNegative : Binary64 → Bool
  | .finite s m _ => s && m != 0
  | .infinite s => s
  | .nan => false

/-- Equality as numbers: the zeros agree, and what is not a number equals nothing. -/
def equals : Binary64 → Binary64 → Bool
  | .nan, _ | _, .nan => false
  | x, y => (x.isZero && y.isZero) || x == y

/-- The integer part, held within the signed 64-bit range; none gives zero. -/
def truncate : Binary64 → Int
  | .nan => 0
  | .infinite s => if s then -0x8000000000000000 else 0x7fffffffffffffff
  | .finite s m e =>
    let n := (inUnits m 1 (-e)).1 / (inUnits m 1 (-e)).2
    let i : Int := if s then -(n : Int) else n
    max (-0x8000000000000000) (min 0x7fffffffffffffff i)

end Binary64

end CodeJudge
