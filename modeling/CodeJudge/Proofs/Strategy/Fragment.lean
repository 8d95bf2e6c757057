import CodeJudge.Plan.VariableName
import CodeJudge.Proofs.Literal.Printable
import CodeJudge.Strategy.Fragment
/-!
Fragments on one line. What is written of a test value, whatever it is, stands on the line of its
statement, and the names of variables are plain.
-/
namespace CodeJudge

open Json (Printable)

namespace VariableName

/-- A variable has a plain name, kept or made up. -/
theorem is_plain_of_param (name : Option String) (index : Nat) :
    isPlain (ofParam name index).toList = true := by
  -- a made-up name is a word with the digits of the place behind it
  have hindex : isPlain (ofIndex index).toList = true := by
    have hdigits : ∀ d ∈ Nat.toDigits 10 index, isNameChar d = true := by
      intro d hd
      have hdigit := Nat.isDigit_of_mem_toDigits (by decide) (by decide) hd
      simp [isNameChar, Char.isAlphanum, hdigit]
    have hname : (ofIndex index).toList = ['a', 'r', 'g'] ++ Nat.toDigits 10 index := by
      simp [ofIndex]
    have hall : (['r', 'g'] ++ Nat.toDigits 10 index).all isNameChar = true := by
      rw [List.all_append, List.all_eq_true.mpr hdigits]
      decide
    rw [hname]
    exact hall
  cases name with
  | none => exact hindex
  | some name =>
    rw [ofParam]
    split_ifs with hkept
    · rw [Bool.and_eq_true] at hkept
      exact hkept.1
    · exact hindex

theorem printable_of_plain {cs : List Char} (h : isPlain cs = true) : Printable cs := by
  have hname : ∀ c, isNameChar c = true → 0x20 ≤ c.toNat := by
    intro c hc
    simp only [isNameChar, Char.isAlphanum, Char.isAlpha, Char.isUpper, Char.isLower, Char.isDigit,
      Bool.or_eq_true, Bool.and_eq_true, decide_eq_true_eq, beq_iff_eq, ge_iff_le,
      UInt32.le_iff_toNat_le] at hc
    rcases hc with ((h | h) | h) | rfl
    · exact Nat.le_trans (by decide) h.1
    · exact Nat.le_trans (by decide) h.1
    · exact Nat.le_trans (by decide) h.1
    · decide
  cases cs with
  | nil => exact Printable.nil
  | cons c cs =>
    rw [isPlain, Bool.and_eq_true, List.all_eq_true] at h
    have hc : isNameChar c = true := by simp [isNameChar, Char.isAlphanum, h.1]
    exact Printable.cons (hname c hc) fun d hd => hname d (h.2 d hd)

end VariableName

namespace BaseType

variable (b : BaseType) (s : Scalar)

theorem printable_native_type_cpp : Printable (b.nativeType s .cpp).toList := by
  cases b with
  | primitive => cases s <;> decide
  | array => exact Literal.Cpp.printable_vector_type s 1
  | matrix => exact Literal.Cpp.printable_vector_type s 2
  | linkedList | tree => cases s <;> decide
  | graph => exact Literal.Cpp.printable_vector_type .int 2

theorem printable_native_type_java : Printable (b.nativeType s .java).toList := by
  cases b with
  | primitive => cases s <;> decide
  | array => exact Literal.Java.printable_array_type s 1
  | matrix => exact Literal.Java.printable_array_type s 2
  | linkedList | tree | graph => cases s <;> decide

theorem printable_cpp_level_order (v : Json.Value) : Printable (cppLevelOrder v).toList := by
  rw [cppLevelOrder]
  refine printable_text_append (printable_text_append (by decide) ?_) (by decide)
  apply printable_intercalate (by decide)
  intro t ht
  obtain ⟨item, -, rfl⟩ := List.mem_map.mp ht
  split
  · decide
  · exact Literal.Cpp.printable_scalar _ _

theorem printable_java_level_order (v : Json.Value) : Printable (javaLevelOrder v).toList := by
  rw [javaLevelOrder]
  refine printable_text_append (printable_text_append (by decide) ?_) (by decide)
  apply printable_intercalate (by decide)
  intro t ht
  obtain ⟨item, -, rfl⟩ := List.mem_map.mp ht
  split
  · decide
  · exact Literal.Java.printable_scalar _ _

theorem printable_cpp_flat_type : Printable (b.cppFlatType s).toList := by
  cases b with
  | primitive => cases s <;> decide
  | array => exact Literal.Cpp.printable_vector_type s 1
  | matrix => exact Literal.Cpp.printable_vector_type s 2
  | linkedList => exact Literal.Cpp.printable_vector_type .int 1
  | tree => cases s <;> decide
  | graph => exact Literal.Cpp.printable_vector_type .int 2

theorem printable_cpp_flat (v : Json.Value) : Printable (b.cppFlat s v).toList := by
  cases b with
  | primitive => exact Literal.Cpp.printable_scalar v s
  | array => exact Literal.Cpp.printable_vector s 1 v
  | matrix => exact Literal.Cpp.printable_vector s 2 v
  | linkedList => exact Literal.Cpp.printable_vector .int 1 v
  | tree => exact printable_cpp_level_order v
  | graph => exact Literal.Cpp.printable_vector .int 2 v

theorem printable_java_flat (v : Json.Value) : Printable (b.javaFlat s v).toList := by
  cases b with
  | primitive => exact Literal.Java.printable_scalar v s
  | array => exact Literal.Java.printable_array s 1 v
  | matrix => exact Literal.Java.printable_array s 2 v
  | linkedList => exact Literal.Java.printable_array .int 1 v
  | tree => exact printable_java_level_order v
  | graph => exact Literal.Java.printable_array .int 2 v

theorem printable_cpp_build {flat : String} (h : Printable flat.toList) :
    Printable (b.cppBuild flat).toList := by
  cases b with
  | linkedList | tree =>
    exact printable_text_append (printable_text_append (by decide) h) (by decide)
  | primitive | array | matrix | graph => exact h

theorem printable_java_build {flat : String} (h : Printable flat.toList) :
    Printable (b.javaBuild flat).toList := by
  cases b with
  | linkedList | tree | graph =>
    exact printable_text_append (printable_text_append (by decide) h) (by decide)
  | primitive | array | matrix => exact h

end BaseType

end CodeJudge
