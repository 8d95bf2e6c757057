import CodeJudge.Literal.Cpp
import CodeJudge.Literal.Java
import CodeJudge.Proofs.Json.Integers
/-!
Integer literals: how they are written, and how each language reads a signed decimal literal, with
its type. The literal of an integer is read as that integer, of the type it was written for, if and
only if the type holds it.
-/
namespace CodeJudge

/-- Whether an integer has 64 bits, one of them for its sign. -/
def Scalar.IsInt64 (i : Int) : Prop := -0x8000000000000000 ≤ i ∧ i < 0x8000000000000000

instance (i : Int) : Decidable (Scalar.IsInt64 i) := inferInstanceAs (Decidable (_ ∧ _))

/-- Whether an integer fits the native type of a scalar type. -/
def Scalar.Holds : Scalar → Int → Prop
  | .int, i => IsInt32 i
  | .long, i => IsInt64 i
  | _, _ => False

namespace Literal

/-! Reading. -/

/-- The number of a decimal literal. With a leading zero the digits would be octal. -/
def decimal? (ds : List Char) : Option Nat :=
  if ds ≠ [] ∧ ds.all Char.isDigit = true ∧ (ds.head? = some '0' → ds = ['0']) then
    some (Json.natOfDigits ds)
  else none

/-- A decimal literal, negated or not, and the suffix behind its digits. -/
def signedDecimal? (cs : List Char) : Option (Int × List Char) :=
  let (negative, digits) := Binary64.readSign cs
  let (ds, suffix) := Json.spanDigits digits
  (decimal? ds).map fun n : Nat => (if negative then -(n : Int) else n, suffix)

namespace Cpp

/-- The type of a decimal literal: the first one that holds the number, and with the suffix `LL` not
the shorter one. A sign is no part of the literal. -/
def typeOf? (suffix : List Char) (n : Nat) : Option Scalar :=
  if suffix = [] ∧ n < 0x80000000 then some .int
  else if (suffix = [] ∨ suffix = ['L', 'L']) ∧ n < 0x8000000000000000 then some .long
  else none

/-- The type and the value of an integer constant: the name of a least integer, or a decimal
literal, negated or not. -/
def integer? (cs : List Char) : Option (Scalar × Int) :=
  if cs = "INT_MIN".toList then some (.int, -0x80000000)
  else if cs = "LLONG_MIN".toList then some (.long, -0x8000000000000000)
  else (signedDecimal? cs).bind fun (i, suffix) => (typeOf? suffix i.natAbs).map (·, i)

end Cpp

namespace Java

/-- The type of a decimal literal with its sign: the suffix alone says which, and the number has to
fit. Only behind a minus may the literal be one more than the greatest integer. -/
def typeOf? (suffix : List Char) (i : Int) : Option Scalar :=
  if suffix = [] ∧ IsInt32 i then some .int
  else if suffix = ['L'] ∧ Scalar.IsInt64 i then some .long
  else none

/-- The type and the value of a decimal literal, negated or not. -/
def integer? (cs : List Char) : Option (Scalar × Int) :=
  (signedDecimal? cs).bind fun (i, suffix) => (typeOf? suffix i).map (·, i)

end Java

/-! Digits and signs. -/

theorem int_text_eq (i : Int) : (intText i).toList = Json.writeInt i := by
  rw [intText, String.toList_ofList]

theorem int_text_char {i : Int} {c : Char} (h : c ∈ (intText i).toList) :
    c = '-' ∨ c.isDigit = true := by
  rw [int_text_eq, Json.writeInt] at h
  split_ifs at h
  · rcases List.mem_cons.mp h with rfl | h
    · exact Or.inl rfl
    · exact Or.inr (Json.digit_of_decimal_digits h)
  · exact Or.inr (Json.digit_of_decimal_digits h)

theorem int_text_ne_nil (i : Int) : (intText i).toList ≠ [] := by
  rw [int_text_eq, Json.writeInt]
  split_ifs
  · simp
  · exact Json.decimal_digits_ne_nil _

theorem decimal_decimal_digits (n : Nat) : decimal? (Binary64.decimalDigits n) = some n := by
  have hdigits : (Binary64.decimalDigits n).all Char.isDigit = true := by
    rw [List.all_eq_true]
    exact fun d hd => Json.digit_of_decimal_digits hd
  -- zero alone is written with a leading zero
  have hlead : (Binary64.decimalDigits n).head? = some '0' → Binary64.decimalDigits n = ['0'] := by
    intro hzero
    by_cases hn : n = 0
    · rw [hn]
      rfl
    · exact absurd hzero (Json.decimal_digits_head hn)
  rw [decimal?, if_pos ⟨Json.decimal_digits_ne_nil n, hdigits, hlead⟩, Json.nat_of_decimal_digits]

/-- A digit is no sign. -/
theorem read_sign_of_digit {cs : List Char} (h : ∀ c ∈ cs.head?, c.isDigit = true) :
    Binary64.readSign cs = (false, cs) := by
  unfold Binary64.readSign
  split
  · exact absurd (h '-' rfl) (by decide)
  · exact absurd (h '+' rfl) (by decide)
  · rfl

theorem read_sign_write_int (i : Int) : Binary64.readSign (Json.writeInt i) =
    (decide (i < 0), Binary64.decimalDigits i.natAbs) := by
  rw [Json.writeInt]
  split_ifs with hi
  · rw [Binary64.readSign, decide_eq_true hi]
  · have hhead : ∀ c ∈ (Binary64.decimalDigits i.natAbs).head?, c.isDigit = true :=
      fun c hc => Json.digit_of_decimal_digits (List.mem_of_mem_head? hc)
    rw [decide_eq_false hi, read_sign_of_digit hhead]

theorem signed_decimal_int_text (i : Int) {suffix : List Char} (h : Json.EndsNumber suffix) :
    signedDecimal? ((intText i).toList ++ suffix) = some (i, suffix) := by
  have hvalue : (if decide (i < 0) = true then -(i.natAbs : Int) else i.natAbs) = i := by
    simp only [decide_eq_true_eq]
    split_ifs <;> omega
  rw [int_text_eq, signedDecimal?, Json.read_sign_append _ h, read_sign_write_int]
  simp only [Json.span_digits_append _ h, Json.span_decimal_digits, List.nil_append,
    decimal_decimal_digits, Option.map_some, hvalue]

theorem int_text_injective {i j : Int} (h : intText i = intText j) : i = j := by
  have hread := signed_decimal_int_text i Json.EndsNumber.nil
  rw [h, signed_decimal_int_text j Json.EndsNumber.nil] at hread
  exact (Prod.mk.inj (Option.some.inj hread)).1.symm

namespace Cpp

/-- What begins with a digit or a minus is no name. -/
theorem int_text_ne_name (i : Int) (suffix : List Char) {c : Char} (name : List Char)
    (hc : ¬ (c = '-' ∨ c.isDigit = true)) : (intText i).toList ++ suffix ≠ c :: name := by
  obtain ⟨d, ds, hd⟩ := List.exists_cons_of_ne_nil (int_text_ne_nil i)
  have hchar : d = '-' ∨ d.isDigit = true := int_text_char (by rw [hd]; exact List.mem_cons_self)
  rw [hd, List.cons_append]
  intro h
  exact hc ((List.cons.inj h).1 ▸ hchar)

theorem integer_int_text (i : Int) {suffix : List Char} (h : Json.EndsNumber suffix) :
    integer? ((intText i).toList ++ suffix) = (typeOf? suffix i.natAbs).map (·, i) := by
  have hint : (intText i).toList ++ suffix ≠ "INT_MIN".toList :=
    int_text_ne_name i suffix _ (by decide)
  have hlong : (intText i).toList ++ suffix ≠ "LLONG_MIN".toList :=
    int_text_ne_name i suffix _ (by decide)
  rw [integer?, if_neg hint, if_neg hlong, signed_decimal_int_text i h, Option.bind_some]

theorem is_exactly_iff (i j : Int) : isExactly (.number (.int i)) j = true ↔ i = j := by
  rw [isExactly, beq_iff_eq, eq_comm]

theorem int_literal (i : Int) : scalar (.number (.int i)) .int =
    if i = -0x80000000 then "INT_MIN" else intText i := by
  simp only [scalar, is_exactly_iff, toInt]

theorem long_literal (i : Int) : scalar (.number (.int i)) .long =
    if i = -0x8000000000000000 then "LLONG_MIN" else intText i ++ "LL" := by
  simp only [scalar, is_exactly_iff, toInt]

theorem integer_int_literal (i : Int) :
    integer? (scalar (.number (.int i)) .int).toList = some (.int, i) ↔ IsInt32 i := by
  rw [int_literal]
  split_ifs with hmin
  · subst hmin
    simp only [integer?, if_true, true_iff]
    decide
  · have hread := integer_int_text i Json.EndsNumber.nil
    rw [List.append_nil] at hread
    rw [hread, typeOf?, IsInt32]
    simp only [true_and, true_or]
    split_ifs with hsmall hlong
    · simp only [Option.map_some, true_iff]
      omega
    · simp only [Option.map_some, Option.some.injEq, Prod.mk.injEq, reduceCtorEq, false_and,
        false_iff]
      omega
    · simp only [Option.map_none, reduceCtorEq, false_iff]
      omega

theorem integer_long_literal (i : Int) :
    integer? (scalar (.number (.int i)) .long).toList = some (.long, i) ↔ Scalar.IsInt64 i := by
  rw [long_literal]
  split_ifs with hmin
  · subst hmin
    simp only [integer?]
    decide
  · have hread := integer_int_text i
      (Json.EndsNumber.cons (show Json.isNumeral 'L' = false by decide) ['L'])
    rw [String.toList_append, show "LL".toList = ['L', 'L'] from rfl, hread, typeOf?,
      Scalar.IsInt64]
    simp only [reduceCtorEq, false_and, if_false, false_or, true_and]
    split_ifs with hlong
    · simp only [Option.map_some, true_iff]
      omega
    · simp only [Option.map_none, reduceCtorEq, false_iff]
      omega

/-- The literal of an integer is read as that integer, of the type it is written for, if and only if
the type holds it. -/
theorem integer_literal_iff {s : Scalar} (hs : s = .int ∨ s = .long) (i : Int) :
    integer? (scalar (.number (.int i)) s).toList = some (s, i) ↔ s.Holds i := by
  rcases hs with rfl | rfl
  · exact integer_int_literal i
  · exact integer_long_literal i

end Cpp

namespace Java

theorem integer_int_text (i : Int) {suffix : List Char} (h : Json.EndsNumber suffix) :
    integer? ((intText i).toList ++ suffix) = (typeOf? suffix i).map (·, i) := by
  rw [integer?, signed_decimal_int_text i h, Option.bind_some]

theorem integer_literal_iff {s : Scalar} (hs : s = .int ∨ s = .long) (i : Int) :
    integer? (scalar (.number (.int i)) s).toList = some (s, i) ↔ s.Holds i := by
  rcases hs with rfl | rfl
  · have hread := integer_int_text i Json.EndsNumber.nil
    rw [List.append_nil] at hread
    rw [scalar, toInt, hread, typeOf?, Scalar.Holds]
    by_cases hi : IsInt32 i <;> simp [hi]
  · have hread := integer_int_text i
      (Json.EndsNumber.cons (show Json.isNumeral 'L' = false by decide) [])
    rw [scalar, toInt, String.toList_append, show "L".toList = ['L'] from rfl, hread, typeOf?,
      Scalar.Holds]
    by_cases hi : Scalar.IsInt64 i <;> simp [hi]

end Java

end Literal

end CodeJudge
