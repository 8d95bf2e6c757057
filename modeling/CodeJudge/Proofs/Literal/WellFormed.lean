import CodeJudge.Proofs.Binary64.Numeral
import CodeJudge.Proofs.Literal.ReadBack
/-!
Which texts are literals of a scalar type in either language, by their form alone. The literal of
any value has the form of its type, but for a text that is read as a number which is not finite: as
a floating-point literal that is a word.
-/
namespace CodeJudge

namespace Literal

/-! Floating literals. -/

/-- Digits in base ten, at least one. -/
def IsDigits (ds : List Char) : Prop := ds ≠ [] ∧ ∀ d ∈ ds, d.isDigit = true

/-- An exponent: a mark, a sign or none, and digits. -/
inductive IsExponent : List Char → Prop
  | of_digits {mark : Char} {sign ds : List Char} (hmark : mark = 'e' ∨ mark = 'E')
      (hsign : sign = [] ∨ sign = ['+'] ∨ sign = ['-']) (hds : IsDigits ds) :
      IsExponent (mark :: sign ++ ds)

/-- Digits with a fraction, an exponent or both: digits alone are an integer. -/
inductive IsMagnitude : List Char → Prop
  | fraction {whole ds : List Char} (hwhole : IsDigits whole) (hds : IsDigits ds) :
      IsMagnitude (whole ++ '.' :: ds)
  | exponent {whole e : List Char} (hwhole : IsDigits whole) (he : IsExponent e) :
      IsMagnitude (whole ++ e)
  | fraction_exponent {whole ds e : List Char} (hwhole : IsDigits whole) (hds : IsDigits ds)
      (he : IsExponent e) : IsMagnitude (whole ++ '.' :: ds ++ e)

/-- A floating literal, negated or not. -/
def IsFloating (cs : List Char) : Prop := IsMagnitude (Binary64.readSign cs).2

theorem IsDigits.append_head? {as bs : List Char} (h : IsDigits as) {c : Char}
    (hc : (as ++ bs).head? = some c) : c.isDigit = true := by
  rw [List.head?_append_of_ne_nil _ h.1] at hc
  exact h.2 c (List.mem_of_mem_head? hc)

theorem is_digits_zero : IsDigits ['0'] :=
  ⟨List.cons_ne_nil _ _, List.forall_mem_singleton.mpr rfl⟩

theorem IsMagnitude.head?_digit {cs : List Char} (h : IsMagnitude cs) {c : Char}
    (hc : cs.head? = some c) : c.isDigit = true := by
  cases h with
  | fraction hwhole _ => exact hwhole.append_head? hc
  | exponent hwhole _ => exact hwhole.append_head? hc
  | fraction_exponent hwhole _ _ =>
    rw [List.append_assoc] at hc
    exact hwhole.append_head? hc

/-- A magnitude begins with a digit, so it has no sign to take off. -/
theorem is_floating_of_magnitude {cs : List Char} (h : IsMagnitude cs) : IsFloating cs := by
  rw [IsFloating, read_sign_of_digit fun c hc => h.head?_digit hc]
  exact h

/-! What is written of a finite number. -/

/-- What is read as an exponent is nothing or an exponent. -/
theorem is_exponent_of_read {cs : List Char} {x : Int} (hne : cs ≠ [])
    (h : Binary64.exponentOf? cs = some x) : IsExponent cs := by
  obtain rfl | ⟨mark, sign, ds, rfl, hmark, hsign, hds⟩ := Binary64.Numeral.exponent_parts h
  · exact absurd rfl hne
  · exact IsExponent.of_digits hmark hsign hds

/-- A numeral with a point or an exponent is a floating literal. -/
theorem is_magnitude_of_numeral {n : Binary64.Numeral} {v : ℚ} (h : n.Denotes v)
    (hmark : n.fraction ≠ [] ∨ n.exponent ≠ []) : IsMagnitude n.text := by
  obtain ⟨x, hx, -⟩ := h.value
  have hwhole : IsDigits n.whole := ⟨h.whole_ne_nil, h.whole⟩
  rw [Binary64.Numeral.text]
  split_ifs with hfraction
  · rw [List.append_nil]
    exact IsMagnitude.exponent hwhole (is_exponent_of_read (hmark.resolve_left (· hfraction)) hx)
  · have hdigits : IsDigits n.fraction := ⟨hfraction, h.fraction⟩
    by_cases hexponent : n.exponent = []
    · rw [hexponent, List.append_nil]
      exact IsMagnitude.fraction hwhole hdigits
    · exact IsMagnitude.fraction_exponent hwhole hdigits (is_exponent_of_read hexponent hx)

theorem is_magnitude_text (m : Nat) (e : Int) (form : Binary64.Form) :
    IsMagnitude (Binary64.magnitudeText m e form) := by
  rw [Binary64.magnitudeText]
  split_ifs
  · exact IsMagnitude.fraction is_digits_zero is_digits_zero
  · obtain ⟨n, htext, hmark, hdenotes, -⟩ :=
      (Binary64.shortest form.tie m e).exists_numeral form
    rw [htext]
    exact is_magnitude_of_numeral hdenotes hmark

/-- A number is written as a floating literal if and only if it is finite: infinity and what is no
number are words. -/
theorem is_floating_write_iff (x : Binary64) :
    IsFloating (x.write .literal) ↔ x.isFinite = true := by
  have hword {cs : List Char} {c : Char} (hc : (Binary64.readSign cs).2.head? = some c)
      (hdigit : c.isDigit = false) : ¬ IsFloating cs := by
    intro h
    rw [h.head?_digit hc] at hdigit
    cases hdigit
  cases x with
  | nan =>
    have h : ¬ IsFloating (Binary64.nan.write .literal) :=
      hword rfl (show 'N'.isDigit = false by rfl)
    simpa [Binary64.isFinite] using h
  | infinite negative =>
    have h : ¬ IsFloating ((Binary64.infinite negative).write .literal) := by
      cases negative <;> exact hword rfl (show 'i'.isDigit = false by rfl)
    simpa [Binary64.isFinite] using h
  | finite negative m e =>
    have hmagnitude := is_magnitude_text m e .literal
    simp only [Binary64.isFinite, iff_true]
    rw [Binary64.write]
    cases negative with
    | true => exact hmagnitude
    | false => exact is_floating_of_magnitude hmagnitude

end Literal

/-! Which values stand for a finite number. -/

namespace Binary64

/-- A natural number of at most 1023 bits is rounded to a finite number. -/
theorem is_finite_of_ratio (negative : Bool) {num : Nat} (h : num.log2 ≤ 1022) :
    (ofRatio negative num 1).isFinite = true := by
  have hexponent : exponentFor num 1 < greatestExponent := by
    have hone : Nat.log2 1 = 0 := by decide
    simp only [exponentFor, leastExponent, greatestExponent, hone]
    split_ifs <;> omega
  rw [ofRatio]
  split_ifs with hzero
  · rfl
  · dsimp only
    split_ifs with hcarry hlarge hlarge
    · omega
    · rfl
    · omega
    · rfl

theorem is_finite_of_int {i : Int} (h : Json.Number.InRange i) : (ofInt i).isFinite = true := by
  have hrange : -0x8000000000000000 ≤ i ∧ i < 0x10000000000000000 := h
  have hlog : i.natAbs.log2 ≤ 64 := by
    by_cases hzero : i.natAbs = 0
    · rw [hzero]
      decide
    · have hlt : i.natAbs.log2 < 65 := (Nat.log2_lt hzero).mpr (by omega)
      omega
  exact is_finite_of_ratio _ (by omega)

end Binary64

namespace Literal

/-- A text that is read as a number, but as none that is finite. -/
def NamesNonFinite (t : String) : Prop :=
  ∃ x, Binary64.ofText? (Text.trim t) = some x ∧ x.isFinite = false

theorem to_binary64_finite_iff {v : Json.Value} (h : v.WellFormed) :
    (toBinary64 v).isFinite = true ↔ ¬ ∃ t, v = .string t ∧ NamesNonFinite t := by
  cases v with
  | number n =>
    have hfinite : n.toBinary64.isFinite = true := by
      cases n with
      | int i => exact Binary64.is_finite_of_int h
      | float x => exact h.2
    simpa [toBinary64] using hfinite
  | string t =>
    -- only a text can be read as a number that is not finite
    have hread : (toBinary64 (.string t)).isFinite = true ↔ ¬ NamesNonFinite t := by
      rw [toBinary64, NamesNonFinite]
      cases hx : Binary64.ofText? (Text.trim t) with
      | none => simp [Binary64.zero, Binary64.isFinite]
      | some x => simp
    simpa using hread
  | null | bool | array | object => simp [toBinary64, Binary64.zero, Binary64.isFinite]

/-! Literals of each type. -/

theorem true_or_false_of_bool_text (v : Json.Value) :
    (boolText v).toList = "true".toList ∨ (boolText v).toList = "false".toList := by
  rw [boolText]
  split_ifs
  · exact Or.inl rfl
  · exact Or.inr rfl

theorem to_char_ascii (v : Json.Value) : (toChar v).toNat < 128 := by
  unfold toChar
  split
  · split_ifs with hc
    · exact hc
    · decide
  · decide

namespace Cpp

/-- Whether a text has the form of a literal of a type. The least integer of a type has a name. -/
def IsLiteral : Scalar → List Char → Prop
  | .int, cs => cs = "INT_MIN".toList ∨ ∃ i, signedDecimal? cs = some (i, [])
  | .long, cs => cs = "LLONG_MIN".toList ∨ ∃ i, signedDecimal? cs = some (i, ['L', 'L'])
  | .double, cs => IsFloating cs
  | .bool, cs => cs = "true".toList ∨ cs = "false".toList
  | .string, cs => ∃ t, readString? cs = some (t, [])
  | .char, cs => ∃ c, readCharLiteral? cs = some (c, [])

theorem is_literal_of_ne_double (v : Json.Value) {s : Scalar} (hs : s ≠ .double) :
    IsLiteral s (scalar v s).toList := by
  cases s with
  | double => exact absurd rfl hs
  | int =>
    rw [scalar]
    split_ifs
    · exact Or.inl rfl
    · have hread := signed_decimal_int_text (toInt v) Json.EndsNumber.nil
      rw [List.append_nil] at hread
      exact Or.inr ⟨_, hread⟩
  | long =>
    rw [scalar]
    split_ifs
    · exact Or.inl rfl
    · have hends : Json.EndsNumber ['L', 'L'] := Json.EndsNumber.cons (by decide) _
      rw [String.toList_append]
      exact Or.inr ⟨_, signed_decimal_int_text (toInt v) hends⟩
  | bool => exact true_or_false_of_bool_text v
  | string =>
    have hread := read_string (toText v) []
    rw [List.append_nil] at hread
    exact ⟨_, hread⟩
  | char =>
    have hread := read_char (toChar v) []
    rw [List.append_nil] at hread
    exact ⟨_, hread⟩

end Cpp

namespace Java

/-- Whether a text has the form of a literal of a type, once the escapes of 16-bit units in it are
translated. -/
def IsLiteral : Scalar → List Char → Prop
  | .int, cs => ∃ i, signedDecimal? cs = some (i, [])
  | .long, cs => ∃ i, signedDecimal? cs = some (i, ['L'])
  | .double, cs => IsFloating cs
  | .bool, cs => cs = "true".toList ∨ cs = "false".toList
  | .string, cs => ∃ us, (translate? cs).bind readString? = some (us, [])
  | .char, cs => ∃ u, (translate? cs).bind readCharLiteral? = some (u, [])

theorem is_literal_of_ne_double (v : Json.Value) {s : Scalar} (hs : s ≠ .double) :
    IsLiteral s (scalar v s).toList := by
  have hend : translate? [] = some [] := by rw [translate?]
  cases s with
  | double => exact absurd rfl hs
  | int =>
    have hread := signed_decimal_int_text (toInt v) Json.EndsNumber.nil
    rw [List.append_nil] at hread
    exact ⟨_, hread⟩
  | long =>
    have hends : Json.EndsNumber ['L'] := Json.EndsNumber.cons (by decide) _
    rw [scalar, String.toList_append]
    exact ⟨_, signed_decimal_int_text (toInt v) hends⟩
  | bool => exact true_or_false_of_bool_text v
  | string =>
    have hread := read_string (toText v) []
    rw [List.append_nil, hend, Option.map_some] at hread
    exact ⟨_, hread⟩
  | char =>
    have hread := read_char (to_char_ascii v) []
    rw [List.append_nil, hend, Option.map_some] at hread
    exact ⟨_, hread⟩

end Java

theorem is_floating_double_text_iff {v : Json.Value} (h : v.WellFormed) :
    IsFloating (doubleText v).toList ↔ ¬ ∃ t, v = .string t ∧ NamesNonFinite t := by
  rw [doubleText, Binary64.toText, String.toList_ofList, is_floating_write_iff,
    to_binary64_finite_iff h]

/-- In both languages the text that is written of a value for a type is a literal of that type,
unless the type is the floating one and the value a text that is read as a number which is not
finite. -/
theorem literal_well_formed_iff {v : Json.Value} (h : v.WellFormed) (s : Scalar) :
    (Cpp.IsLiteral s (Cpp.scalar v s).toList ↔
        ¬ (s = .double ∧ ∃ t, v = .string t ∧ NamesNonFinite t)) ∧
      (Java.IsLiteral s (Java.scalar v s).toList ↔
        ¬ (s = .double ∧ ∃ t, v = .string t ∧ NamesNonFinite t)) := by
  by_cases hs : s = .double
  · subst hs
    have hcondition : ¬ (Scalar.double = .double ∧ ∃ t, v = .string t ∧ NamesNonFinite t) ↔
        ¬ ∃ t, v = .string t ∧ NamesNonFinite t := by
      rw [eq_self, true_and]
    rw [hcondition]
    exact ⟨is_floating_double_text_iff h, is_floating_double_text_iff h⟩
  · have hcondition : ¬ (s = .double ∧ ∃ t, v = .string t ∧ NamesNonFinite t) :=
      fun hdouble => hs hdouble.1
    exact ⟨iff_of_true (Cpp.is_literal_of_ne_double v hs) hcondition,
      iff_of_true (Java.is_literal_of_ne_double v hs) hcondition⟩

/-- A number in a text, with white space around it, an exponent and a sign, is a number again. -/
theorem literal_well_formed_of_number_text :
    (Json.Value.string " -2.5E+22\n").WellFormed ∧
      Cpp.IsLiteral .double (Cpp.scalar (.string " -2.5E+22\n") .double).toList ∧
      Java.IsLiteral .double (Java.scalar (.string " -2.5E+22\n") .double).toList := by
  have hvalue : (Json.Value.string " -2.5E+22\n").WellFormed := trivial
  have hread : (Binary64.ofText? (Text.trim " -2.5E+22\n")).all (·.isFinite) = true := by
    decide
  have hfinite : ¬ (Scalar.double = .double ∧
      ∃ t, Json.Value.string " -2.5E+22\n" = .string t ∧ NamesNonFinite t) := by
    rintro ⟨-, t, ht, x, hx, hinfinite⟩
    cases ht
    rw [hx, Option.all_some, hinfinite] at hread
    cases hread
  obtain ⟨hcpp, hjava⟩ := literal_well_formed_iff hvalue .double
  exact ⟨hvalue, hcpp.mpr hfinite, hjava.mpr hfinite⟩

/-- The word for infinity is written as it stands where a floating literal is due. -/
theorem not_well_formed_of_infinity :
    (Json.Value.string "inf").WellFormed ∧
      ¬ Cpp.IsLiteral .double (Cpp.scalar (.string "inf") .double).toList ∧
      ¬ Java.IsLiteral .double (Java.scalar (.string "inf") .double).toList := by
  have hread : Binary64.ofText? (Text.trim "inf") = some (.infinite false) := by decide
  have hword : ¬ IsFloating (doubleText (.string "inf")).toList := by
    rw [is_floating_double_text_iff (show (Json.Value.string "inf").WellFormed from trivial),
      not_not]
    exact ⟨"inf", rfl, _, hread, rfl⟩
  exact ⟨trivial, hword, hword⟩

end Literal

end CodeJudge
