import CodeJudge.Binary64.Reader
import CodeJudge.Binary64.Text
import CodeJudge.Proofs.Binary64.Shortest
import CodeJudge.Proofs.Json.Strings
import CodeJudge.Proofs.Literal.Integer
import CodeJudge.Proofs.Text.Blank
/-!
Numerals. A positive decimal is written with a point or an exponent or both, and whatever the
layout, the digits and the exponent stand for the decimal. So a number that is written in any form
is read again as that number.
-/
namespace CodeJudge.Binary64

/-! Digits. -/

theorem nat_of_append (as bs : List Char) :
    natOf (as ++ bs) = natOf as * 10 ^ bs.length + natOf bs := by
  have happend : natOf (as ++ bs) = Nat.ofDigitChars 10 bs (natOf as) := Nat.ofDigitChars_append 0
  rw [happend, Nat.ofDigitChars_eq_ofDigitChars_zero, mul_comm]
  rfl

theorem nat_of_zeros (k : Nat) : natOf (List.replicate k '0') = 0 :=
  Nat.ofDigitChars_replicate_zero

theorem nat_of_padded (ds : List Char) (k : Nat) :
    natOf (ds ++ List.replicate k '0') = natOf ds * 10 ^ k := by
  rw [nat_of_append, nat_of_zeros, List.length_replicate, add_zero]

/-! Numerals. -/

/-- A numeral by its parts. -/
structure Numeral where
  whole : List Char
  /-- The digits behind the point; without any there is no point. -/
  fraction : List Char
  /-- The exponent with its mark, or nothing. -/
  exponent : List Char

namespace Numeral

variable {n : Numeral} {v : ℚ}

def text (n : Numeral) : List Char :=
  n.whole ++ (if n.fraction = [] then [] else '.' :: n.fraction) ++ n.exponent

/-- The parts are digits and an exponent, and stand for a number. -/
structure Denotes (n : Numeral) (v : ℚ) : Prop where
  whole_ne_nil : n.whole ≠ []
  whole : ∀ d ∈ n.whole, d.isDigit = true
  fraction : ∀ d ∈ n.fraction, d.isDigit = true
  value : ∃ x, exponentOf? n.exponent = some x ∧
    natOf (n.whole ++ n.fraction) * 10 ^ (x - n.fraction.length) = v

/-- Only the number zero begins with a zero in front of the point. -/
def Unpadded (n : Numeral) : Prop := n.whole.head? = some '0' → n.whole = ['0']

/-- A sign is taken off, or there is none. -/
theorem exists_sign (cs : List Char) : ∃ sign : List Char,
    (sign = [] ∨ sign = ['+'] ∨ sign = ['-']) ∧ cs = sign ++ (readSign cs).2 := by
  unfold readSign
  split
  · exact ⟨['-'], by simp, rfl⟩
  · exact ⟨['+'], by simp, rfl⟩
  · exact ⟨[], by simp, rfl⟩

/-- What is read as an exponent is nothing, or a mark, a sign or none, and digits. -/
theorem exponent_parts {cs : List Char} {x : Int} (h : exponentOf? cs = some x) :
    cs = [] ∨ ∃ mark sign ds, cs = mark :: sign ++ ds ∧ (mark = 'e' ∨ mark = 'E') ∧
      (sign = [] ∨ sign = ['+'] ∨ sign = ['-']) ∧ ds ≠ [] ∧ ∀ d ∈ ds, d.isDigit = true := by
  cases cs with
  | nil => exact Or.inl rfl
  | cons mark rest =>
    obtain ⟨sign, hsign, hrest⟩ := exists_sign rest
    simp only [exponentOf?, Option.ite_none_right_eq_some, Option.ite_none_left_eq_some,
      Bool.or_eq_true, beq_iff_eq, List.isEmpty_iff, Bool.not_eq_true', Bool.eq_false_iff,
      not_or, not_not, List.all_eq_true] at h
    obtain ⟨hmark, ⟨hne, hdigits⟩, -⟩ := h
    exact Or.inr ⟨mark, sign, _, congrArg _ hrest, hmark, hsign, hne, hdigits⟩

theorem exponent_head {cs : List Char} {x : Int} (h : exponentOf? cs = some x) {c : Char}
    (hc : cs.head? = some c) : c = 'e' ∨ c = 'E' := by
  obtain rfl | ⟨mark, sign, ds, rfl, hmark, -⟩ := exponent_parts h
  · cases hc
  · obtain rfl := Option.some.inj hc
    exact hmark

theorem not_digit_of_exponent {cs : List Char} {x : Int} (h : exponentOf? cs = some x) {c : Char}
    (hc : cs.head? = some c) : c.isDigit = false := by
  rcases exponent_head h hc with rfl | rfl <;> rfl

theorem is_numeral_of_digit {c : Char} (h : c.isDigit = true) : Json.isNumeral c = true := by
  simp [Json.isNumeral, h]

theorem is_numeral_of_exponent {cs : List Char} {x : Int} (h : exponentOf? cs = some x) :
    ∀ c ∈ cs, Json.isNumeral c = true := by
  obtain rfl | ⟨mark, sign, ds, rfl, hmark, hsign, -, hds⟩ := exponent_parts h
  · exact List.forall_mem_nil _
  · have hhead : ∀ c ∈ mark :: sign, Json.isNumeral c = true := by
      rcases hmark with rfl | rfl <;> rcases hsign with rfl | rfl | rfl <;>
        exact List.all_eq_true.mp rfl
    exact List.forall_mem_append.mpr ⟨hhead, fun c hc => is_numeral_of_digit (hds c hc)⟩

/-- Digits end where anything but a digit follows. -/
theorem span_digits {ds rest : List Char} (hds : ∀ d ∈ ds, d.isDigit = true)
    (hrest : ∀ c ∈ rest.head?, c.isDigit = false) :
    (ds ++ rest).takeWhile Char.isDigit = ds ∧ (ds ++ rest).dropWhile Char.isDigit = rest := by
  rw [List.takeWhile_append_of_pos hds, List.dropWhile_append_of_pos hds]
  cases rest with
  | nil => simp
  | cons c cs =>
    have hc : c.isDigit = false := hrest c rfl
    simp [hc]

/-- The digits in front end at the point or at the exponent. -/
theorem Denotes.span_whole (h : n.Denotes v) :
    n.text.takeWhile Char.isDigit = n.whole ∧
      n.text.dropWhile Char.isDigit =
        (if n.fraction = [] then [] else '.' :: n.fraction) ++ n.exponent := by
  obtain ⟨x, hx, -⟩ := h.value
  rw [text, List.append_assoc]
  apply span_digits h.whole
  intro c hc
  split_ifs at hc
  · exact not_digit_of_exponent hx hc
  · exact Option.some.inj hc ▸ rfl

theorem Denotes.head_text (h : n.Denotes v) : n.text.head? = n.whole.head? := by
  rw [text, List.append_assoc, List.head?_append_of_ne_nil _ h.whole_ne_nil]

theorem Denotes.is_numeral (h : n.Denotes v) : ∀ c ∈ n.text, Json.isNumeral c = true := by
  obtain ⟨x, hx, -⟩ := h.value
  have hfraction : ∀ c ∈ (if n.fraction = [] then [] else '.' :: n.fraction),
      Json.isNumeral c = true := by
    split_ifs
    · exact List.forall_mem_nil _
    · exact List.forall_mem_cons.mpr ⟨rfl, fun c hc => is_numeral_of_digit (h.fraction c hc)⟩
  rw [text, List.forall_mem_append, List.forall_mem_append]
  exact ⟨⟨fun c hc => is_numeral_of_digit (h.whole c hc), hfraction⟩, is_numeral_of_exponent hx⟩

/-- The digits of a numeral, its point and its exponent are taken apart again. -/
theorem Denotes.magnitude_of_text (h : n.Denotes v) (negative : Bool) :
    magnitudeOf? negative n.text = (exponentOf? n.exponent).map fun e =>
      ofDecimal negative (natOf (n.whole ++ n.fraction)) (e - n.fraction.length) := by
  obtain ⟨x, hx, -⟩ := h.value
  obtain ⟨htake, hdrop⟩ := h.span_whole
  have hempty : n.whole.isEmpty = false := List.isEmpty_eq_false_iff.mpr h.whole_ne_nil
  by_cases hfraction : n.fraction = []
  · rw [if_pos hfraction, List.nil_append] at hdrop
    simp only [magnitudeOf?, htake, hdrop, hempty]
    split
    · next hpoint =>
      -- an exponent does not begin with a point
      rcases exponent_head hx (congrArg List.head? hpoint) with hc | hc <;> cases hc
    · simp [hfraction]
  · obtain ⟨htakeFraction, hdropFraction⟩ :=
      span_digits h.fraction fun c hc => not_digit_of_exponent hx hc
    rw [if_neg hfraction, List.cons_append] at hdrop
    simp only [magnitudeOf?, htake, hdrop, hempty, htakeFraction, hdropFraction, Bool.false_and,
      Bool.false_eq_true, if_false]

/-- A numeral is read as a decimal of the number that it stands for. -/
theorem Denotes.exists_decimal (h : n.Denotes v) (negative : Bool) :
    ∃ (digits : Nat) (x : Int), magnitudeOf? negative n.text = some (ofDecimal negative digits x) ∧
      digits * (10 : ℚ) ^ x = v := by
  obtain ⟨x, hx, hvalue⟩ := h.value
  refine ⟨_, _, ?_, hvalue⟩
  rw [h.magnitude_of_text, hx, Option.map_some]

end Numeral

/-! Layouts. -/

theorem digit_of_zeros (k : Nat) : ∀ d ∈ List.replicate k '0', d.isDigit = true := by
  intro d hd
  rw [List.eq_of_mem_replicate hd]
  rfl

theorem exponent_of_digits {sign : List Char} {k : Nat} (negative : Bool)
    (h : readSign (sign ++ decimalDigits k) = (negative, decimalDigits k)) :
    exponentOf? ('e' :: sign ++ decimalDigits k) = some (if negative then -(k : Int) else k) := by
  have hdigits : (decimalDigits k).all Char.isDigit = true :=
    List.all_eq_true.mpr fun d hd => Json.digit_of_decimal_digits hd
  have hempty : (decimalDigits k).isEmpty = false :=
    List.isEmpty_eq_false_iff.mpr (Json.decimal_digits_ne_nil k)
  have hvalue : natOf (decimalDigits k) = k := Json.nat_of_decimal_digits k
  rw [List.cons_append, exponentOf?]
  simp only [h, hdigits, hempty, hvalue, BEq.rfl, Bool.true_or, Bool.not_true, Bool.or_self,
    Bool.false_eq_true, if_true, if_false]

/-- The sign and the digits of an exponent are read as the exponent. -/
theorem exponent_of_written (plus : Bool) (exponent : Int) :
    exponentOf? ('e' :: (if exponent < 0 then ['-'] else if plus then ['+'] else []) ++
      decimalDigits exponent.natAbs) = some exponent := by
  split_ifs with hneg hplus
  · rw [exponent_of_digits true rfl, if_pos rfl, Option.some.injEq]
    omega
  · rw [exponent_of_digits false rfl, if_neg Bool.false_ne_true, Option.some.injEq]
    omega
  · have hdigit : ∀ c ∈ (decimalDigits exponent.natAbs).head?, c.isDigit = true :=
      fun c hc => Json.digit_of_decimal_digits (List.mem_of_mem_head? hc)
    rw [exponent_of_digits false (Literal.read_sign_of_digit hdigit), if_neg Bool.false_ne_true,
      Option.some.injEq]
    omega

section Layouts

variable {ds : List Char} (hne : ds ≠ []) (hds : ∀ d ∈ ds, d.isDigit = true)

include hne hds

/-- In front of a fraction of less than one stand zeros. -/
theorem positional_small_numeral {exponent : Int} (hexponent : exponent < 0) :
    ∃ n : Numeral, positional ds exponent = n.text ∧ n.fraction ≠ [] ∧
      n.Denotes (natOf ds * 10 ^ (exponent + 1 - ds.length)) ∧ n.Unpadded := by
  have hfraction : List.replicate ((-exponent).toNat - 1) '0' ++ ds ≠ [] :=
    List.append_ne_nil_of_right_ne_nil _ hne
  have hvalue : natOf ('0' :: (List.replicate ((-exponent).toNat - 1) '0' ++ ds)) = natOf ds := by
    have hzero : natOf ('0' :: (List.replicate ((-exponent).toNat - 1) '0' ++ ds)) =
        natOf (List.replicate ((-exponent).toNat - 1) '0' ++ ds) := rfl
    rw [hzero, nat_of_append, nat_of_zeros, zero_mul, zero_add]
  refine ⟨⟨['0'], List.replicate ((-exponent).toNat - 1) '0' ++ ds, []⟩, ?_, hfraction,
    ⟨by simp, by simp, ?_, 0, rfl, ?_⟩, fun _ => rfl⟩
  · simp [positional, if_pos hexponent, Numeral.text, hfraction]
  · exact List.forall_mem_append.mpr ⟨digit_of_zeros _, hds⟩
  · rw [List.singleton_append, hvalue, List.length_append, List.length_replicate]
    congr 2
    omega

/-- Digits that do not reach the point are followed by zeros, and behind it stands one zero. -/
theorem positional_whole_numeral {exponent : Int} (hexponent : 0 ≤ exponent)
    (hlength : ds.length ≤ exponent.toNat + 1) :
    ∃ n : Numeral, positional ds exponent = n.text ∧ n.fraction ≠ [] ∧
      n.Denotes (natOf ds * 10 ^ (exponent + 1 - ds.length)) ∧
      (ds.head? ≠ some '0' → n.Unpadded) := by
  refine ⟨⟨ds ++ List.replicate (exponent.toNat + 1 - ds.length) '0', ['0'], []⟩, ?_,
    List.cons_ne_nil _ _, ⟨by simp [hne], ?_, by simp, 0, rfl, ?_⟩, ?_⟩
  · have hdrop : ds.drop (exponent.toNat + 1) = [] := List.drop_eq_nil_of_le hlength
    have htake : ds.take (exponent.toNat + 1) = ds := List.take_of_length_le hlength
    simp [positional, if_neg hexponent.not_gt, Numeral.text, hdrop, htake]
  · exact List.forall_mem_append.mpr ⟨hds, digit_of_zeros _⟩
  · have hzeros : ds ++ List.replicate (exponent.toNat + 1 - ds.length) '0' ++ ['0'] =
        ds ++ List.replicate (exponent.toNat + 1 - ds.length + 1) '0' := by
      rw [List.append_assoc, List.replicate_succ']
    have hplace : exponent + 1 - ds.length = (exponent.toNat + 1 - ds.length : ℕ) := by omega
    have htenth : (10 : ℚ) ^ ((0 : Int) - ['0'].length) = 1 / 10 := by norm_num
    rw [hzeros, nat_of_padded, hplace, htenth, zpow_natCast, Nat.cast_mul, Nat.cast_pow]
    push_cast
    ring
  · intro hhead hzero
    rw [List.head?_append_of_ne_nil _ hne] at hzero
    exact absurd hzero hhead

/-- Otherwise the point stands among the digits. -/
theorem positional_split_numeral {exponent : Int} (hexponent : 0 ≤ exponent)
    (hlength : exponent.toNat + 1 < ds.length) :
    ∃ n : Numeral, positional ds exponent = n.text ∧ n.fraction ≠ [] ∧
      n.Denotes (natOf ds * 10 ^ (exponent + 1 - ds.length)) ∧
      (ds.head? ≠ some '0' → n.Unpadded) := by
  have hzeros : exponent.toNat + 1 - ds.length = 0 := by omega
  have hdrop : ds.drop (exponent.toNat + 1) ≠ [] := by
    rw [ne_eq, List.drop_eq_nil_iff, not_le]
    exact hlength
  refine ⟨⟨ds.take (exponent.toNat + 1), ds.drop (exponent.toNat + 1), []⟩, ?_, hdrop,
    ⟨by simp [hne], fun d hd => hds d (List.mem_of_mem_take hd),
      fun d hd => hds d (List.mem_of_mem_drop hd), 0, rfl, ?_⟩, ?_⟩
  · rw [positional, if_neg hexponent.not_gt, Numeral.text, if_neg hdrop, List.append_nil]
    dsimp only
    rw [hzeros, List.replicate_zero, List.append_nil]
    split
    · next hnil => exact absurd hnil hdrop
    · rfl
  · rw [List.take_append_drop, List.length_drop]
    congr 2
    omega
  · intro hhead hzero
    rw [List.head?_take, if_neg (Nat.succ_ne_zero _)] at hzero
    exact absurd hzero hhead

theorem positional_numeral (exponent : Int) :
    ∃ n : Numeral, positional ds exponent = n.text ∧ n.fraction ≠ [] ∧
      n.Denotes (natOf ds * 10 ^ (exponent + 1 - ds.length)) ∧
      (ds.head? ≠ some '0' → n.Unpadded) := by
  rcases lt_or_ge exponent 0 with hneg | hnonneg
  · obtain ⟨n, htext, hfraction, hdenotes, hunpadded⟩ := positional_small_numeral hne hds hneg
    exact ⟨n, htext, hfraction, hdenotes, fun _ => hunpadded⟩
  · rcases le_or_gt ds.length (exponent.toNat + 1) with hlength | hlength
    · exact positional_whole_numeral hne hds hnonneg hlength
    · exact positional_split_numeral hne hds hnonneg hlength

theorem scientific_numeral (plus : Bool) (exponent : Int) :
    ∃ n : Numeral, scientific plus ds exponent = n.text ∧ n.exponent ≠ [] ∧
      n.Denotes (natOf ds * 10 ^ (exponent + 1 - ds.length)) ∧
      (ds.head? ≠ some '0' → n.Unpadded) := by
  obtain ⟨d, fraction, rfl⟩ := List.exists_cons_of_ne_nil hne
  obtain ⟨hd, hfraction⟩ := List.forall_mem_cons.mp hds
  refine ⟨⟨[d], fraction, 'e' :: (if exponent < 0 then ['-'] else if plus then ['+'] else []) ++
    decimalDigits exponent.natAbs⟩, ?_, List.cons_ne_nil _ _,
    ⟨List.cons_ne_nil _ _, by simpa using hd, hfraction, exponent,
      exponent_of_written plus exponent, ?_⟩, ?_⟩
  · cases fraction <;> simp [scientific, Numeral.text]
  · have hplace : exponent + 1 - ((d :: fraction).length : Int) = exponent - fraction.length := by
      rw [List.length_cons]
      omega
    rw [List.singleton_append, hplace]
  · intro hhead hzero
    exact absurd hzero hhead

end Layouts

/-- A decimal is written as a numeral with a point or an exponent that stands for it. -/
theorem Decimal.exists_numeral (d : Decimal) (form : Form) :
    ∃ n : Numeral, d.write form = n.text ∧ (n.fraction ≠ [] ∨ n.exponent ≠ []) ∧
      n.Denotes (d.digits * 10 ^ d.exponent) ∧ (d.digits ≠ 0 → n.Unpadded) := by
  have hne := Json.decimal_digits_ne_nil d.digits
  have hds : ∀ c ∈ decimalDigits d.digits, c.isDigit = true :=
    fun c hc => Json.digit_of_decimal_digits hc
  have hvalue : natOf (decimalDigits d.digits) = d.digits := Json.nat_of_decimal_digits d.digits
  have hplace : d.exponent + (decimalDigits d.digits).length - 1 + 1 -
      (decimalDigits d.digits).length = d.exponent := by omega
  rw [Decimal.write]
  split_ifs
  · obtain ⟨n, htext, hfraction, hdenotes, hunpadded⟩ := positional_numeral hne hds
      (d.exponent + (decimalDigits d.digits).length - 1)
    rw [hvalue, hplace] at hdenotes
    exact ⟨n, htext, Or.inl hfraction, hdenotes, fun h => hunpadded (Json.decimal_digits_head h)⟩
  · obtain ⟨n, htext, hexponent, hdenotes, hunpadded⟩ := scientific_numeral hne hds form.plus
      (d.exponent + (decimalDigits d.digits).length - 1)
    rw [hvalue, hplace] at hdenotes
    exact ⟨n, htext, Or.inr hexponent, hdenotes, fun h => hunpadded (Json.decimal_digits_head h)⟩

/-! Texts. -/

/-- What begins with a digit is no word. -/
theorem of_text_of_digit {s : String} {negative : Bool} {cs : List Char} {d : Char}
    (hsign : readSign s.toList = (negative, cs)) (hhead : cs.head? = some d)
    (hd : d.isDigit = true) : ofText? s = magnitudeOf? negative cs := by
  have halpha : d.isAlpha = false := by
    by_contra hletter
    rw [Bool.not_eq_false] at hletter
    rw [Json.not_digit_of_letter hletter] at hd
    cases hd
  have hlower : (cs.map Char.toLower).head? = some d := by
    rw [List.head?_map, hhead, Option.map_some, (Text.to_lower_eq_iff halpha).mpr rfl]
  have hword (word : String) {c : Char} (hc : word.toList.head? = some c)
      (hletter : c.isDigit = false) : (String.ofList (cs.map Char.toLower) == word) = false := by
    rw [beq_eq_false_iff_ne]
    rintro rfl
    rw [String.toList_ofList, hlower, Option.some.injEq] at hc
    rw [← hc, hd] at hletter
    cases hletter
  rw [ofText?, hsign]
  simp only [hword "inf" rfl rfl, hword "infinity" rfl rfl, hword "nan" rfl rfl, Bool.or_self,
    Bool.false_eq_true, if_false]

/-- The shortest decimal of a number is read as the number. -/
theorem magnitude_of_shortest {negative : Bool} {m : Nat} {e : Int} (hm : 0 < m)
    (hcanonical : (finite negative m e).Canonical) (form : Form) :
    magnitudeOf? negative ((shortest form.tie m e).write form) = some (.finite negative m e) := by
  obtain ⟨n, htext, -, hdenotes, -⟩ := (shortest form.tie m e).exists_numeral form
  obtain ⟨digits, x, hread, hvalue⟩ := hdenotes.exists_decimal negative
  have hholds := (shortest_holds hm hcanonical form.tie).2
  rw [← hvalue] at hholds
  rw [htext, hread, of_decimal_of_holds hm hcanonical hholds]

/-- The magnitude of a finite number, as it is written. -/
def magnitudeText (m : Nat) (e : Int) (form : Form) : List Char :=
  if m = 0 then ['0', '.', '0'] else (shortest form.tie m e).write form

theorem write_finite (negative : Bool) (m : Nat) (e : Int) (form : Form) :
    (finite negative m e).write form =
      if negative then '-' :: magnitudeText m e form else magnitudeText m e form := rfl

theorem magnitude_of_magnitude_text {negative : Bool} {m : Nat} {e : Int}
    (hcanonical : (finite negative m e).Canonical) (form : Form) :
    magnitudeOf? negative (magnitudeText m e form) = some (.finite negative m e) := by
  rw [magnitudeText]
  split_ifs with hzero
  · -- zero has its one form at the least exponent
    subst hzero
    obtain ⟨-, -, -, hnormal | hleast⟩ := hcanonical
    · exact absurd hnormal (by decide)
    · rw [hleast]
      cases negative <;> decide
  · exact magnitude_of_shortest (Nat.pos_of_ne_zero hzero) hcanonical form

theorem digit_of_magnitude_text (m : Nat) (e : Int) (form : Form) :
    ∃ d, (magnitudeText m e form).head? = some d ∧ d.isDigit = true := by
  rw [magnitudeText]
  split_ifs with hzero
  · exact ⟨'0', rfl, rfl⟩
  · obtain ⟨n, htext, -, hdenotes, -⟩ := (shortest form.tie m e).exists_numeral form
    obtain ⟨d, ds, hwhole⟩ := List.exists_cons_of_ne_nil hdenotes.whole_ne_nil
    refine ⟨d, ?_, hdenotes.whole d (by rw [hwhole]; exact List.mem_cons_self)⟩
    rw [htext, Numeral.text, hwhole]
    rfl

theorem is_numeral_of_magnitude_text (m : Nat) (e : Int) (form : Form) :
    ∀ c ∈ magnitudeText m e form, Json.isNumeral c = true := by
  rw [magnitudeText]
  split_ifs
  · exact List.all_eq_true.mp rfl
  · obtain ⟨n, htext, -, hdenotes, -⟩ := (shortest form.tie m e).exists_numeral form
    rw [htext]
    exact hdenotes.is_numeral

variable {x : Binary64}

/-- A finite number that is written in any form is read again as that number. -/
theorem of_text_to_text (hcanonical : x.Canonical) (hfinite : x.isFinite = true) (form : Form) :
    ofText? (x.toText form) = some x := by
  cases x with
  | nan => cases hfinite
  | infinite negative => cases hfinite
  | finite negative m e =>
    obtain ⟨d, hhead, hd⟩ := digit_of_magnitude_text m e form
    have hsign : readSign ((finite negative m e).toText form).toList =
        (negative, magnitudeText m e form) := by
      rw [toText, String.toList_ofList, write_finite]
      cases negative with
      | true => rfl
      | false =>
        have hdigit : ∀ c ∈ (magnitudeText m e form).head?, c.isDigit = true := by
          intro c hc
          rw [hhead] at hc
          exact Option.some.inj hc ▸ hd
        exact Literal.read_sign_of_digit hdigit
    rw [of_text_of_digit hsign hhead hd, magnitude_of_magnitude_text hcanonical]

theorem magnitude_canonical {negative : Bool} {cs : List Char}
    (h : magnitudeOf? negative cs = some x) : x.Canonical := by
  simp only [magnitudeOf?, Option.ite_none_left_eq_some, Option.map_eq_some_iff] at h
  obtain ⟨-, e, -, rfl⟩ := h
  exact of_decimal_canonical _ _ _

/-- Every number that is read is one that the 64 bits can hold. -/
theorem of_text_canonical {s : String} (h : ofText? s = some x) : x.Canonical := by
  rw [ofText?] at h
  dsimp only at h
  split_ifs at h
  · obtain rfl := Option.some.inj h
    trivial
  · obtain rfl := Option.some.inj h
    trivial
  · exact magnitude_canonical h

end CodeJudge.Binary64
