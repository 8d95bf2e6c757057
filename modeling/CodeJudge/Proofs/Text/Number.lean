import CodeJudge.Proofs.Literal.Integer
import CodeJudge.Proofs.Text.Search
/-!
Numbers in a text. A search passes over a number whatever its digits are if no match starts with a
digit, and a run of digits in a pattern takes all the digits of a number.
-/
namespace CodeJudge.Text

open Pattern

theorem to_string_nat (n : Nat) : toString n = String.ofList (Binary64.decimalDigits n) := rfl

theorem to_string_int (i : Int) : toString i = Literal.intText i := by
  rw [Literal.intText, Json.writeInt]
  cases i with
  | ofNat n => rfl
  | negSucc n =>
    have htext : toString (Int.negSucc n) = "-" ++ toString (n + 1) := rfl
    rw [if_pos (Int.negSucc_lt_zero n), htext, String.ofList_cons]
    rfl

theorem to_list_to_string_nat (n : Nat) : (toString n).toList = Binary64.decimalDigits n := by
  rw [to_string_nat, String.toList_ofList]

theorem to_list_to_string_int (i : Int) : (toString i).toList = Json.writeInt i := by
  rw [to_string_int, Literal.int_text_eq]

/-- The characters of numbers in base ten. -/
def numerals : List Char := "-0123456789".toList

theorem mem_numerals {d : Char} (h : d.isDigit = true) : d ∈ numerals := by
  simp only [Char.isDigit, Bool.and_eq_true, decide_eq_true_eq, UInt32.le_iff_toNat_le,
    ge_iff_le] at h
  have hbounds : 48 ≤ d.toNat ∧ d.toNat ≤ 57 := h
  rw [← Char.ofNat_toNat d]
  obtain ⟨hle, hge⟩ := hbounds
  -- there are ten code points between those of `0` and `9`
  generalize d.toNat = k at hle hge
  interval_cases k <;> decide

theorem ne_minus_of_digit {d : Char} (h : d.isDigit = true) : d ≠ '-' := by
  rintro rfl
  exact absurd h (by decide)

/-- A number as far as its characters go. -/
structure IsNumber (w : List Char) : Prop where
  ne_nil : w ≠ []
  mem : ∀ d ∈ w, d ∈ numerals

theorem is_number_decimal_digits (n : Nat) : IsNumber (Binary64.decimalDigits n) :=
  ⟨Json.decimal_digits_ne_nil n, fun _ hd => mem_numerals (Json.digit_of_decimal_digits hd)⟩

theorem is_number_write_int (i : Int) : IsNumber (Json.writeInt i) := by
  rw [← Literal.int_text_eq]
  refine ⟨Literal.int_text_ne_nil i, fun d hd => ?_⟩
  rcases Literal.int_text_char hd with rfl | hdigit
  · decide
  · exact mem_numerals hdigit

/-! What is passed over. -/

namespace IsNumber

variable {w : List Char} (hw : IsNumber w)
include hw

theorem all {f : Char → Bool} (hf : numerals.all f = true) : w.all f = true :=
  List.all_eq_true.mpr fun d hd => List.all_eq_true.mp hf d (hw.mem d hd)

/-- A number is passed over if no match starts with one of its characters. -/
theorem skips_over {p : Pattern} (hp : numerals.all (fun d => !p.mayStartWith [d]) = true) :
    p.SkipsOver w := by
  refine SkipsOver.of_chars fun d hd => ?_
  simpa using List.all_eq_true.mp (hw.all hp) d hd

/-- A number is passed over together with the texts around it. -/
theorem skips_over_between {p : Pattern} {u v : List Char}
    (hp : numerals.all (fun d => !p.mayStartWith [d]) = true) (hu : p.SkipsOver u)
    (hv : p.SkipsOver v) : p.SkipsOver (u ++ (w ++ v)) :=
  hu.append ((hw.skips_over hp).append hv)

/-- A number ends a run of characters that no number has. -/
theorem head_any {f : Char → Bool} (hf : numerals.all (fun d => !f d) = true) (cs : List Char) :
    (w ++ cs).head?.any f = false := by
  have hall := hw.all hf
  obtain ⟨d, ds, hds⟩ := List.exists_cons_of_ne_nil hw.ne_nil
  rw [hds, List.all_cons, Bool.and_eq_true] at hall
  rw [hds]
  simpa using hall.1

end IsNumber

/-! What is taken. -/

/-- A text ends a run with its first character, whatever comes behind it. -/
theorem head_any_text {f : Char → Bool} {w : List Char} (hne : w ≠ [])
    (hw : w.head?.any f = false) (cs : List Char) : (w ++ cs).head?.any f = false := by
  rw [List.head?_append_of_ne_nil _ hne]
  exact hw

theorem digit_has {d : Char} (h : d.isDigit = true) : CharSet.digit.has d = true := by
  have hnumerals : numerals.all (fun d => d == '-' || CharSet.digit.has d) = true := by decide
  have hd := List.all_eq_true.mp hnumerals d (mem_numerals h)
  have hminus : (d == '-') = false := beq_eq_false_iff_ne.mpr (ne_minus_of_digit h)
  rwa [hminus] at hd

/-- A run of digits takes the digits of a number. -/
theorem takes_digits (n : Nat) {cs : List Char} (hcs : cs.head?.any CharSet.digit.has = false) :
    (Pattern.run .digit).Takes (Binary64.decimalDigits n) [] cs :=
  Takes.run (Json.decimal_digits_ne_nil n)
    (fun _ hd => digit_has (Json.digit_of_decimal_digits hd)) hcs

theorem takes_integer (i : Int) {cs : List Char} (hcs : cs.head?.any CharSet.digit.has = false) :
    (Pattern.both (.optional (.text "-")) (.run .digit)).Takes (Json.writeInt i) [] cs := by
  rw [Json.writeInt]
  split_ifs
  · exact (Takes.either_left (Takes.text "-" _)).both (takes_digits i.natAbs hcs)
  · -- the minus may be left out, and a digit is none
    have hskip : (Pattern.optional (.text "-")).Takes [] []
        (Binary64.decimalDigits i.natAbs ++ cs) := by
      refine Takes.either_right (fun before groups => ?_) (Takes.nothing _)
      obtain ⟨d, ds, hds⟩ := List.exists_cons_of_ne_nil (Json.decimal_digits_ne_nil i.natAbs)
      have hd : d.isDigit = true := Json.digit_of_decimal_digits (by rw [hds]; simp)
      have hminus : (Pattern.text "-").mayStartWith [d] = false := by
        simpa [mayStartWith, mayStart, Pattern.text, Pattern.all, CharSet.has] using
          ne_minus_of_digit hd
      rw [hds]
      exact match_eq_none hminus before (ds ++ cs) groups
    exact hskip.both (takes_digits i.natAbs hcs)

end CodeJudge.Text
