import CodeJudge.Literal.Coercion
/-!
C++ literals: scalars and nested `vector` values.
-/
namespace CodeJudge.Literal.Cpp

/-- One character inside quotes. -/
def escape (quote c : Char) : List Char :=
  match escapeCommon? quote c with
  | some e => e
  | none => if c.toNat == 0x7F then '\\' :: octal3 0x7F else [c]

/-- A string literal. -/
def string (s : String) : String :=
  String.ofList ('"' :: s.toList.flatMap (escape '"') ++ ['"'])

/-- A character literal. -/
def char (c : Char) : String := String.ofList ('\'' :: escape '\'' c ++ ['\''])

/-- The value an integer literal is checked against: the number itself, within 64 signed bits. -/
def isExactly (v : Json.Value) (i : Int) : Bool :=
  match v with
  | .number (.int j) => i == j
  | _ => false

/-- A scalar literal. The least integer of either type has no literal but a name. -/
def scalar (v : Json.Value) : Scalar → String
  | .int => if isExactly v (-0x80000000) then "INT_MIN" else intText (toInt v)
  | .long => if isExactly v (-0x8000000000000000) then "LLONG_MIN" else intText (toInt v) ++ "LL"
  | .double => doubleText v
  | .bool => boolText v
  | .string => string (toText v)
  | .char => char (toChar v)

/-- The type of vectors nested `depth` levels deep. -/
def vectorType (s : Scalar) : Nat → String
  | 0 => s.cppType
  | depth + 1 => "vector<" ++ vectorType s depth ++ ">"

/-- A value as vectors nested `depth` levels deep. -/
def vector (s : Scalar) : Nat → Json.Value → String
  | 0, v => scalar v s
  | depth + 1, v =>
    vectorType s (depth + 1) ++ "\x7b"
      ++ String.intercalate ", " ((toItems v).map (vector s depth)) ++ "\x7d"

end CodeJudge.Literal.Cpp
