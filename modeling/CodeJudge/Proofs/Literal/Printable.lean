import CodeJudge.Literal.Cpp
import CodeJudge.Literal.Java
import CodeJudge.Proofs.Binary64.Numeral
import CodeJudge.Proofs.Json.Written
import CodeJudge.Proofs.Literal.Escape
/-!
Literals without control characters. Whatever the value is, its literal has no character that ends
a line, in scalars as well as in nested vectors and arrays.
-/
namespace CodeJudge

open Json (Printable)

theorem printable_of_digits {ds : List Char} (h : ∀ d ∈ ds, d.isDigit = true) : Printable ds := by
  intro d hd
  exact Json.printable_of_numeral (by simp [Json.isNumeral, h d hd])

theorem printable_flat_map {α : Type} {as : List α} {f : α → List Char}
    (h : ∀ a ∈ as, Printable (f a)) : Printable (as.flatMap f) := by
  intro c hc
  obtain ⟨a, ha, hca⟩ := List.mem_flatMap.mp hc
  exact h a ha c hca

theorem printable_text_append {s t : String} (hs : Printable s.toList)
    (ht : Printable t.toList) : Printable (s ++ t).toList := by
  rw [String.toList_append]
  exact hs.append ht

/-- What holds of the characters of a separator and of some texts holds of these texts in a row. -/
theorem forall_mem_intercalate {P : Char → Prop} {sep : String} (hsep : ∀ c ∈ sep.toList, P c)
    {ss : List String} (h : ∀ s ∈ ss, ∀ c ∈ s.toList, P c) :
    ∀ c ∈ (String.intercalate sep ss).toList, P c := by
  induction ss with
  | nil => exact List.forall_mem_nil _
  | cons s ss ih =>
    have hs := h s List.mem_cons_self
    have hrest := ih fun t ht => h t (List.mem_cons_of_mem s ht)
    cases ss with
    | nil => simpa using hs
    | cons t ts =>
      rw [String.intercalate_cons_of_ne_nil (by simp), String.toList_append, String.toList_append,
        List.forall_mem_append, List.forall_mem_append]
      exact ⟨⟨hs, hsep⟩, hrest⟩

theorem printable_intercalate {sep : String} (hsep : Printable sep.toList) {ss : List String}
    (h : ∀ s ∈ ss, Printable s.toList) : Printable (String.intercalate sep ss).toList :=
  forall_mem_intercalate hsep h

namespace Binary64

theorem printable_decimal_digits (n : Nat) : Printable (decimalDigits n) :=
  printable_of_digits fun _ hd => Nat.isDigit_of_mem_toDigits (by decide) (by decide) hd

theorem printable_write_literal (x : Binary64) : Printable (x.write .literal) := by
  cases x with
  | nan => decide
  | infinite negative => cases negative <;> decide
  | finite negative m e =>
    have hmagnitude : Printable (magnitudeText m e .literal) :=
      fun c hc => Json.printable_of_numeral (is_numeral_of_magnitude_text m e .literal c hc)
    rw [write_finite]
    cases negative with
    | true => exact hmagnitude.cons (by decide)
    | false => exact hmagnitude

end Binary64

namespace Literal

theorem printable_int_text (i : Int) : Printable (intText i).toList := by
  have hdigits := Binary64.printable_decimal_digits i.natAbs
  rw [intText, String.toList_ofList, Json.writeInt]
  split_ifs
  · exact hdigits.cons (by decide)
  · exact hdigits

theorem printable_double_text (v : Json.Value) : Printable (doubleText v).toList := by
  rw [doubleText, Binary64.toText, String.toList_ofList]
  exact (toBinary64 v).printable_write_literal

theorem printable_bool_text (v : Json.Value) : Printable (boolText v).toList := by
  rw [boolText]
  split_ifs <;> decide

theorem printable_octal3 (n : Nat) : Printable (octal3 n) := by
  have hdigit : ∀ d < 8, 0x20 ≤ (Nat.digitChar d).toNat := by decide
  intro c hc
  simp only [octal3, List.mem_cons, List.not_mem_nil, or_false] at hc
  rcases hc with rfl | rfl | rfl <;> exact hdigit _ (Nat.mod_lt _ (by decide))

theorem printable_escape_common {quote c : Char} (hquote : 0x20 ≤ quote.toNat) {e : List Char}
    (h : escapeCommon? quote c = some e) : Printable e := by
  rcases escape_common_cases quote c with ⟨hself, he⟩ | ⟨-, he⟩ | ⟨-, he⟩ | ⟨-, he⟩ | ⟨-, he⟩ |
    ⟨-, -, -, he⟩
  all_goals
    rw [h] at he
    cases he
  · rcases hself with rfl | rfl
    · decide
    · exact (Printable.nil.cons hquote).cons (by decide)
  · decide
  · decide
  · decide
  · exact (printable_octal3 _).cons (by decide)

/-- A character without an escape is no control character. -/
theorem printable_of_no_escape {quote c : Char} (h : escapeCommon? quote c = none) :
    0x20 ≤ c.toNat := by
  rcases escape_common_cases quote c with ⟨-, he⟩ | ⟨-, he⟩ | ⟨-, he⟩ | ⟨-, he⟩ | ⟨-, he⟩ |
    ⟨-, -, hc, -⟩
  case inr.inr.inr.inr.inr => exact hc
  all_goals
    rw [h] at he
    cases he

theorem printable_quoted {quote : Char} (hquote : 0x20 ≤ quote.toNat) {cs : List Char}
    (h : Printable cs) : Printable (String.ofList (quote :: cs ++ [quote])).toList := by
  rw [String.toList_ofList]
  exact (h.cons hquote).append (Printable.nil.cons hquote)

namespace Cpp

theorem printable_escape {quote : Char} (hquote : 0x20 ≤ quote.toNat) (c : Char) :
    Printable (escape quote c) := by
  rw [escape]
  split
  · next e he => exact printable_escape_common hquote he
  · next he =>
    split_ifs
    · exact (printable_octal3 _).cons (by decide)
    · exact Printable.nil.cons (printable_of_no_escape he)

theorem printable_string (s : String) : Printable (string s).toList := by
  have hquote : 0x20 ≤ '"'.toNat := by decide
  exact printable_quoted hquote (printable_flat_map fun c _ => printable_escape hquote c)

theorem printable_char (c : Char) : Printable (char c).toList := by
  have hquote : 0x20 ≤ '\''.toNat := by decide
  exact printable_quoted hquote (printable_escape hquote c)

theorem printable_scalar (v : Json.Value) (s : Scalar) : Printable (scalar v s).toList := by
  cases s with
  | int =>
    rw [scalar]
    split_ifs
    · decide
    · exact printable_int_text _
  | long =>
    rw [scalar]
    split_ifs
    · decide
    · exact printable_text_append (printable_int_text _) (by decide)
  | double => exact printable_double_text v
  | bool => exact printable_bool_text v
  | string => exact printable_string _
  | char => exact printable_char _

theorem printable_vector_type (s : Scalar) (depth : Nat) :
    Printable (vectorType s depth).toList := by
  induction depth with
  | zero => cases s <;> decide
  | succ depth ih =>
    exact printable_text_append (printable_text_append (by decide) ih) (by decide)

theorem printable_vector (s : Scalar) (depth : Nat) (v : Json.Value) :
    Printable (vector s depth v).toList := by
  induction depth generalizing v with
  | zero => exact printable_scalar v s
  | succ depth ih =>
    have hitems : Printable
        (String.intercalate ", " ((toItems v).map (vector s depth))).toList := by
      apply printable_intercalate (by decide)
      intro t ht
      obtain ⟨item, -, rfl⟩ := List.mem_map.mp ht
      exact ih item
    have htype := printable_vector_type s (depth + 1)
    rw [vector]
    exact printable_text_append (printable_text_append (printable_text_append htype (by decide))
      hitems) (by decide)

end Cpp

namespace Java

theorem printable_hex4 (n : Nat) : Printable (hex4 n) := by
  have hdigit : ∀ d < 16, 0x20 ≤ (Nat.digitChar d).toNat := by decide
  intro c hc
  simp only [hex4, List.mem_cons, List.not_mem_nil, or_false] at hc
  rcases hc with rfl | rfl | rfl | rfl <;> exact hdigit _ (Nat.mod_lt _ (by decide))

theorem printable_escape {quote : Char} (hquote : 0x20 ≤ quote.toNat) (c : Char) :
    Printable (escape quote c) := by
  rw [escape]
  split
  · next e he => exact printable_escape_common hquote he
  · next he =>
    split_ifs
    · exact Printable.nil.cons (printable_of_no_escape he)
    · apply printable_flat_map
      intro u _
      exact ((printable_hex4 u).cons (by decide)).cons (by decide)

theorem printable_string (s : String) : Printable (string s).toList := by
  have hquote : 0x20 ≤ '"'.toNat := by decide
  exact printable_quoted hquote (printable_flat_map fun c _ => printable_escape hquote c)

theorem printable_char (c : Char) : Printable (char c).toList := by
  have hquote : 0x20 ≤ '\''.toNat := by decide
  exact printable_quoted hquote (printable_escape hquote c)

theorem printable_scalar (v : Json.Value) (s : Scalar) : Printable (scalar v s).toList := by
  cases s with
  | int => exact printable_int_text _
  | long => exact printable_text_append (printable_int_text _) (by decide)
  | double => exact printable_double_text v
  | bool => exact printable_bool_text v
  | string => exact printable_string _
  | char => exact printable_char _

theorem printable_array_type (s : Scalar) (depth : Nat) :
    Printable (arrayType s depth).toList := by
  induction depth with
  | zero => cases s <;> decide
  | succ depth ih => exact printable_text_append ih (by decide)

theorem printable_initializer (s : Scalar) (depth : Nat) (v : Json.Value) :
    Printable (initializer s depth v).toList := by
  induction depth generalizing v with
  | zero => exact printable_scalar v s
  | succ depth ih =>
    have hitems : Printable
        (String.intercalate ", " ((toItems v).map (initializer s depth))).toList := by
      apply printable_intercalate (by decide)
      intro t ht
      obtain ⟨item, -, rfl⟩ := List.mem_map.mp ht
      exact ih item
    rw [initializer]
    exact printable_text_append (printable_text_append (by decide) hitems) (by decide)

theorem printable_array (s : Scalar) (depth : Nat) (v : Json.Value) :
    Printable (array s depth v).toList :=
  printable_text_append (printable_text_append (by decide) (printable_array_type s depth))
    (printable_initializer s depth v)

end Java

end Literal

end CodeJudge
