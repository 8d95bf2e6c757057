/-!
Natural numbers as YAML writes them, in base sixteen, ten, eight or two.
-/
namespace CodeJudge.Yaml

/-- The value of a digit in any base up to sixteen. -/
def digitIn? (base : Nat) (c : Char) : Option Nat :=
  let n :=
    if c.isDigit then c.toNat - '0'.toNat
    else if 'a' ≤ c ∧ c ≤ 'f' then c.toNat - 'a'.toNat + 10
    else if 'A' ≤ c ∧ c ≤ 'F' then c.toNat - 'A'.toNat + 10
    else base
  if n < base then some n else none

/-- The natural number written by one or more digits of a base. -/
def natIn? (base : Nat) : List Char → Option Nat
  | [] => none
  | ds => ds.foldlM (fun n d => (digitIn? base d).map (base * n + ·)) 0

/-- Digits that start with a zero without being zero. -/
def isPadded (ds : List Char) : Bool :=
  match ds with
  | '0' :: _ :: _ => ds.all Char.isDigit
  | _ => false

/-- A magnitude in base sixteen, eight, two or ten, by its first two characters. -/
def magnitude? (cs : List Char) : Option Nat :=
  match cs with
  | '0' :: 'x' :: ds => natIn? 16 ds
  | '0' :: 'o' :: ds => natIn? 8 ds
  | '0' :: 'b' :: ds => natIn? 2 ds
  | ds => if isPadded ds then none else natIn? 10 ds

end CodeJudge.Yaml
