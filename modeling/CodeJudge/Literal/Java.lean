import CodeJudge.Literal.Coercion
/-!
Java literals: scalars and nested arrays. Characters beyond ASCII are written as the units of
their 16-bit encoding.
-/
namespace CodeJudge.Literal.Java

/-- The units of the 16-bit encoding of a character. -/
def units (c : Char) : List Nat :=
  let n := c.toNat
  if n < 0x10000 then [n]
  else [0xD800 + (n - 0x10000) / 0x400, 0xDC00 + (n - 0x10000) % 0x400]

/-- A number below `2 ^ 16` as four small digits in base sixteen. -/
def hex4 (n : Nat) : List Char :=
  [Nat.digitChar (n / 4096 % 16), Nat.digitChar (n / 256 % 16), Nat.digitChar (n / 16 % 16),
    Nat.digitChar (n % 16)]

/-- One character inside quotes. -/
def escape (quote c : Char) : List Char :=
  match escapeCommon? quote c with
  | some e => e
  | none => if c.toNat < 128 then [c] else (units c).flatMap fun u => '\\' :: 'u' :: hex4 u

/-- A string literal. -/
def string (s : String) : String :=
  String.ofList ('"' :: s.toList.flatMap (escape '"') ++ ['"'])

/-- A character literal. -/
def char (c : Char) : String := String.ofList ('\'' :: escape '\'' c ++ ['\''])

/-- A scalar literal. -/
def scalar (v : Json.Value) : Scalar → String
  | .int => intText (toInt v)
  | .long => intText (toInt v) ++ "L"
  | .double => doubleText v
  | .bool => boolText v
  | .string => string (toText v)
  | .char => char (toChar v)

/-- The type of arrays nested `depth` levels deep. -/
def arrayType (s : Scalar) : Nat → String
  | 0 => s.javaType
  | depth + 1 => arrayType s depth ++ "[]"

/-- The part of an array literal that lists its items. -/
def initializer (s : Scalar) : Nat → Json.Value → String
  | 0, v => scalar v s
  | depth + 1, v =>
    "\x7b" ++ String.intercalate ", " ((toItems v).map (initializer s depth)) ++ "\x7d"

/-- A value as arrays nested `depth` levels deep. -/
def array (s : Scalar) (depth : Nat) (v : Json.Value) : String :=
  "new " ++ arrayType s depth ++ initializer s depth v

end CodeJudge.Literal.Java
