import CodeJudge.Binary64
/-!
The shortest decimal: among the decimals that round to a given number, those with the fewest
digits, and of these the nearest one.
-/
namespace CodeJudge.Binary64

/-- Which of two decimals to take when the number lies exactly between them. -/
inductive Tie where
  | even
  | up
  deriving DecidableEq, Repr

/-- A positive decimal, `digits * 10 ^ exponent`. -/
structure Decimal where
  digits : Nat
  exponent : Int
  deriving DecidableEq, Repr

/-- A positive number in quarters of its last place, with the bounds of what rounds to it. -/
structure Span where
  low : Nat
  middle : Nat
  high : Nat
  /-- Whether the bounds themselves round to the number. -/
  closed : Bool
  /-- The exponent of two of a quarter. -/
  exponent : Int
  deriving DecidableEq, Repr

/-- What rounds to `m * 2 ^ e`: half a place to either side, but only a quarter below a power of
two, where the places are finer. -/
def Span.around (m : Nat) (e : Int) : Span where
  low := 4 * m - (if m = 1 <<< 52 ∧ leastExponent < e then 1 else 2)
  middle := 4 * m
  high := 4 * m + 2
  closed := m % 2 == 0
  exponent := e - 2

/-- The best multiple of `10 ^ place` in a span, if one lies in it. -/
def Span.onGrid (s : Span) (tie : Tie) (place : Int) : Option Decimal :=
  let (unit, grid) := inUnits 1 1 (-s.exponent)
  let (ten, one) : Nat × Nat :=
    if 0 ≤ place then (Nat.pow 10 place.toNat, 1) else (1, Nat.pow 10 (-place).toNat)
  let step := ten * grid
  let scale := unit * one
  let below := s.middle * scale / step
  let above := below + 1
  let low := s.low * scale
  let high := s.high * scale
  let fitsBelow := 0 < below && (if s.closed then low ≤ below * step else low < below * step)
  let fitsAbove := if s.closed then above * step ≤ high else above * step < high
  let toBelow := s.middle * scale - below * step
  let toAbove := above * step - s.middle * scale
  if fitsBelow && fitsAbove then
    let takeBelow := toBelow < toAbove ||
      (toBelow == toAbove && (match tie with | .even => below % 2 == 0 | .up => false))
    some ⟨if takeBelow then below else above, place⟩
  else if fitsBelow then some ⟨below, place⟩
  else if fitsAbove then some ⟨above, place⟩
  else none

/-- A power of ten not above `m * 2 ^ e` by more than its neighbours. -/
def decimalPlace (m : Nat) (e : Int) : Int :=
  ((m.log2 + e) * 301029995664).fdiv 1000000000000 + 1

/-- The shortest decimal that rounds to the positive number `m * 2 ^ e`. -/
def shortest (tie : Tie) (m : Nat) (e : Int) : Decimal :=
  let span := Span.around m e
  let top := decimalPlace m e
  ((List.range 19).findSome? fun i : Nat => span.onGrid tie (top - (i : Int))).getD ⟨m, 0⟩

end CodeJudge.Binary64
