import CodeJudge.Proofs.Json.RoundTrip
/-!
Integers. An integer of 64 bits is read again from its digits, so a well-formed value without
floating-point numbers survives being written and read.
-/
namespace CodeJudge.Json

open Binary64 (decimalDigits)

/-! Digits in base ten. -/

theorem nat_of_decimal_digits (n : Nat) : natOfDigits (decimalDigits n) = n :=
  Nat.ofDigitChars_ten_toDigits

theorem digit_of_decimal_digits {n : Nat} {d : Char} (h : d ∈ decimalDigits n) :
    d.isDigit = true :=
  Nat.isDigit_of_mem_toDigits (by decide) (by decide) h

theorem decimal_digits_ne_nil (n : Nat) : decimalDigits n ≠ [] :=
  Nat.toDigits_ne_nil

/-- Only zero is written with a leading zero. -/
theorem decimal_digits_head {n : Nat} (h : n ≠ 0) : (decimalDigits n).head? ≠ some '0' := by
  induction n using Nat.strong_induction_on with
  | _ n ih =>
    by_cases hn : n < 10
    · rw [decimalDigits, Nat.toDigits_of_lt_base hn]
      interval_cases n
      · exact absurd rfl h
      all_goals decide
    · -- the first digit is that of the quotient, which is not zero
      have hsplit : decimalDigits n = decimalDigits (n / 10) ++ [Nat.digitChar (n % 10)] :=
        Nat.toDigits_of_base_le (by decide) (by omega)
      rw [hsplit, List.head?_append_of_ne_nil _ (decimal_digits_ne_nil _)]
      exact ih (n / 10) (by omega) (by omega)

theorem span_decimal_digits (n : Nat) : spanDigits (decimalDigits n) = (decimalDigits n, []) := by
  have hall : ∀ d ∈ decimalDigits n, d.isDigit = true := fun d hd => digit_of_decimal_digits hd
  rw [spanDigits, List.takeWhile_eq_self_iff.mpr hall, List.dropWhile_eq_nil_iff.mpr hall]

theorem read_magnitude_decimal (negative : Bool) (n : Nat) :
    readMagnitude negative (decimalDigits n) =
      some (⟨negative, decimalDigits n, none, none⟩, []) := by
  rw [readMagnitude, span_decimal_digits]
  dsimp only
  split
  · next hnil => exact absurd hnil (decimal_digits_ne_nil n)
  · next c cs hzero =>
    -- a leading zero would stand for the number zero, which has one digit
    by_cases hn : n = 0
    · rw [hn] at hzero
      cases hzero
    · exact absurd (by rw [hzero]; rfl) (decimal_digits_head hn)
  · rfl

theorem read_number_text_write_int (i : Int) :
    readNumberText (writeInt i) =
      some (⟨decide (i < 0), decimalDigits i.natAbs, none, none⟩, []) := by
  rw [writeInt]
  split_ifs with hi
  · rw [readNumberText, read_magnitude_decimal, decide_eq_true hi]
  · unfold readNumberText
    split
    · next cs hminus =>
      -- a digit is no sign
      have hdigit : '-'.isDigit = true := digit_of_decimal_digits (by rw [hminus]; simp)
      exact absurd hdigit (by decide)
    · rw [read_magnitude_decimal, decide_eq_false hi]

/-- An integer of 64 bits, signed or not, survives. -/
theorem Number.survives_of_in_range {i : Int} (h : InRange i) : (Number.int i).Survives := by
  have hrange : -0x8000000000000000 ≤ i ∧ i < 0x10000000000000000 := h
  -- without a fraction and an exponent, what fits in 64 bits is an integer
  have hint : NumberText.int? ⟨decide (i < 0), decimalDigits i.natAbs, none, none⟩ = some i := by
    rw [NumberText.int?]
    simp only [Option.isSome_none, Bool.or_self, Bool.false_eq_true, if_false,
      nat_of_decimal_digits, decide_eq_true_eq]
    split_ifs with hneg hout hin
    · omega
    · rw [Option.some.injEq]
      omega
    · rw [Option.some.injEq]
      omega
    · have hsize : UInt64.size = 0x10000000000000000 := rfl
      omega
  rw [Number.survives_iff, writeNumber, read_number_text_write_int, Option.bind_some]
  simp only [if_true, NumberText.toNumber?, hint]

namespace Value

mutual
/-- No number in the value is a floating-point number. -/
def FloatFree : Value → Prop
  | number (.float _) => False
  | array items => FloatFreeItems items
  | object members => FloatFreeMembers members
  | _ => True

def FloatFreeItems : List Value → Prop
  | [] => True
  | v :: vs => FloatFree v ∧ FloatFreeItems vs

def FloatFreeMembers : List (String × Value) → Prop
  | [] => True
  | (_, v) :: ms => FloatFree v ∧ FloatFreeMembers ms
end

theorem float_free_items_iff (vs : List Value) :
    FloatFreeItems vs ↔ ∀ v ∈ vs, v.FloatFree := by
  induction vs with
  | nil => simp [FloatFreeItems]
  | cons v vs ih => simp [FloatFreeItems, ih]

theorem float_free_members_iff (ms : List (String × Value)) :
    FloatFreeMembers ms ↔ ∀ m ∈ ms, m.2.FloatFree := by
  induction ms with
  | nil => simp [FloatFreeMembers]
  | cons m ms ih => simp [FloatFreeMembers, ih]

/-- A value of integers in range survives. -/
theorem survives_of_float_free {v : Value} (hw : v.WellFormed) (hf : v.FloatFree) :
    v.Survives := by
  induction v using Value.induction_on with
  | null | bool | string => trivial
  | number n =>
    cases n with
    | int i => exact Number.survives_of_in_range hw
    | float x => exact absurd hf id
  | array items ih =>
    have hitems := (well_formed_items_iff items).mp hw
    have hfree := (float_free_items_iff items).mp hf
    exact (survives_items_iff items).mpr fun v hv => ih v hv (hitems v hv) (hfree v hv)
  | object members ih =>
    have hmembers := (well_formed_members_iff members).mp hw.2
    have hfree := (float_free_members_iff members).mp hf
    exact (survives_members_iff members).mpr fun m hm => ih m hm (hmembers m hm) (hfree m hm)

end Value

end CodeJudge.Json
