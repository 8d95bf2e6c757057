import CodeJudge.Json.Printer
import CodeJudge.Proofs.Binary64.Numeral
import CodeJudge.Proofs.Text.Blank
/-!
Visible text. What is written of a JSON value is never blank, whatever number it is.
-/
namespace CodeJudge

namespace Binary64

theorem decimal_digits_visible (n : Nat) : ∃ c ∈ decimalDigits n, Text.isBlank c = false := by
  obtain ⟨c, cs, hcs⟩ := List.exists_cons_of_ne_nil (@Nat.toDigits_ne_nil n 10)
  have hc : c ∈ Nat.toDigits 10 n := by rw [hcs]; exact List.mem_cons_self
  exact ⟨c, hc, Text.visible_of_digit (Nat.isDigit_of_mem_toDigits (by decide) (by decide) hc)⟩

theorem write_json_visible (x : Binary64) : ∃ c ∈ x.write .json, Text.isBlank c = false := by
  cases x with
  | nan => exact ⟨'n', by decide, by decide⟩
  | infinite negative => exact ⟨'n', by cases negative <;> decide, by decide⟩
  | finite negative m e =>
    rw [write_finite]
    cases negative with
    | true => exact ⟨'-', List.mem_cons_self, by decide⟩
    | false =>
      obtain ⟨d, hhead, hd⟩ := digit_of_magnitude_text m e .json
      exact ⟨d, List.mem_of_mem_head? hhead, Text.visible_of_digit hd⟩

end Binary64

namespace Json.Value

theorem write_visible (v : Value) : ∃ c ∈ v.write, Text.isBlank c = false := by
  -- each kind of value has a character of its own that is not blank
  cases v with
  | null => exact ⟨'n', by decide, by decide⟩
  | bool b => exact ⟨'e', by cases b <;> decide, by decide⟩
  | number n =>
    cases n with
    | float x => exact x.write_json_visible
    | int i =>
      obtain ⟨c, hc, hvisible⟩ := Binary64.decimal_digits_visible i.natAbs
      refine ⟨c, ?_, hvisible⟩
      rw [write, writeNumber, writeInt]
      split
      · exact List.mem_cons_of_mem '-' hc
      · exact hc
  | string s => exact ⟨'"', by simp [write, writeString], by decide⟩
  | array items => exact ⟨'[', by simp [write], by decide⟩
  | object members => exact ⟨'\x7b', by simp [write], by decide⟩

theorem not_blank_to_text (v : Value) : Text.isBlankText v.toText = false := by
  rw [Text.not_blank_iff, toText, String.toList_ofList]
  exact v.write_visible

end Json.Value

end CodeJudge
