import CodeJudge.Proofs.Json.RoundTrip
import CodeJudge.Proofs.Text.Blank
/-!
Strings and JSON. A string and a list of strings are read back from their text. A plain text that
begins with a letter is no JSON, unless it is a word of JSON.
-/
namespace CodeJudge.Json

theorem sorted_strings (names : List String) :
    (Value.array (names.map .string)).sorted = .array (names.map .string) := by
  rw [Value.sorted, Value.sorted_items_eq, List.map_map]
  rfl

theorem depth_strings (names : List String) : Value.depthItems (names.map .string) = 0 := by
  induction names with
  | nil => rfl
  | cons n names ih => simp [Value.depthItems, Value.depth, ih]

theorem parse_string_text (s : String) :
    Value.parse? (Value.string s).toText = some (.string s) := by
  have hsurvives : (Value.string s).Survives := trivial
  have hdepth : (Value.string s).depth ≤ maxDepth := Nat.zero_le _
  exact Value.parse_to_text hsurvives hdepth

theorem parse_strings_text (names : List String) :
    Value.parse? (Value.array (names.map .string)).toText = some (.array (names.map .string)) := by
  have hsurvives : (Value.array (names.map .string)).Survives := by
    refine (Value.survives_items_iff _).mpr ?_
    intro v hv
    obtain ⟨n, -, rfl⟩ := List.mem_map.mp hv
    trivial
  have hdepth : (Value.array (names.map .string)).depth ≤ maxDepth := by
    rw [Value.depth, depth_strings]
    decide
  rw [Value.parse_to_text hsurvives hdepth, sorted_strings]

theorem not_digit_of_letter {c : Char} (h : c.isAlpha = true) : c.isDigit = false := by
  by_contra hd
  rw [Bool.not_eq_false] at hd
  simp only [Char.isAlpha, Char.isUpper, Char.isLower, Char.isDigit, Bool.or_eq_true,
    Bool.and_eq_true, decide_eq_true_eq, UInt32.le_iff_toNat_le, ge_iff_le] at h hd
  have hcapital : 'A'.val.toNat = 65 := rfl
  have hsmall : 'a'.val.toNat = 97 := rfl
  have hnine : '9'.val.toNat = 57 := rfl
  omega

theorem read_scalar_letter {c : Char} {cs rest : List Char} {v : Value} (hc : c.isAlpha = true)
    (h : readScalar (c :: cs) = some (v, rest)) :
    ∃ word ∈ ["null", "true", "false"], c :: cs = word.toList ++ rest := by
  unfold readScalar at h
  split at h
  · next hcs =>
    cases h
    exact ⟨"null", by simp, hcs⟩
  · next hcs =>
    cases h
    exact ⟨"true", by simp, hcs⟩
  · next hcs =>
    cases h
    exact ⟨"false", by simp, hcs⟩
  · next hcs =>
    cases hcs
    exact absurd hc (by decide)
  · -- what is left is a number, which begins with its sign or a digit
    simp only [Option.bind_eq_bind, Option.bind_eq_some_iff] at h
    obtain ⟨⟨t, r⟩, ht, -⟩ := h
    obtain ⟨d, ds, hds, hd⟩ := read_number_text_head ht
    cases hds
    rcases hd with rfl | hd
    · exact absurd hc (by decide)
    · rw [not_digit_of_letter hc] at hd
      cases hd

/-- A JSON text that begins with a letter is a word with white space behind it. -/
theorem Value.parse_letter {s : String} {c : Char} {cs : List Char} {v : Value}
    (hs : s.toList = c :: cs) (hc : c.isAlpha = true) (h : parse? s = some v) :
    ∃ word ∈ ["null", "true", "false"], ∃ rest, s.toList = word.toList ++ rest ∧
      ∀ d ∈ rest, isSpace d = true := by
  -- so the text is read as a scalar
  have hne (d : Char) (hd : d.isAlpha = false) : c ≠ d := by
    rintro rfl
    rw [hc] at hd
    cases hd
  have hspace : isSpace c = false := by
    simp [isSpace, hne ' ' rfl, hne '\n' rfl, hne '\t' rfl, hne '\r' rfl]
  obtain ⟨w, hw, -⟩ := Option.map_eq_some_iff.mp h
  rw [readDocument, hs, read_value_of_head _ _ hspace (hne '[' rfl) (hne '\x7b' rfl)] at hw
  cases hread : readScalar (c :: cs) with
  | none =>
    rw [hread] at hw
    cases hw
  | some found =>
    obtain ⟨v, rest⟩ := found
    rw [hread] at hw
    dsimp only at hw
    split_ifs at hw with hrest
    obtain ⟨word, hword, hcs⟩ := read_scalar_letter hc hread
    refine ⟨word, hword, rest, hs.trans hcs, ?_⟩
    exact List.dropWhile_eq_nil_iff.mp (List.isEmpty_iff.mp hrest)

theorem blank_of_space {c : Char} (h : isSpace c = true) : Text.isBlank c = true := by
  simp only [isSpace, Bool.or_eq_true, beq_iff_eq] at h
  rcases h with ((rfl | rfl) | rfl) | rfl <;> decide

end CodeJudge.Json
