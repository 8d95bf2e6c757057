import CodeJudge.Text.Word
import Mathlib
/-!
Trimming. A text that neither starts nor ends with white space is what is left of it between white
space, and no visible character is ever trimmed. The characters of words are visible, so it does
not matter whether letters are made small before or after.
-/
namespace CodeJudge.Text

theorem drop_end_while_eq (p : Char → Bool) (cs : List Char) :
    dropEndWhile p cs = cs.rdropWhile p := rfl

/-- What is dropped at the end is made of the characters that are dropped. -/
theorem drop_end_while_append (p : Char → Bool) (cs : List Char) :
    ∃ w, (∀ c ∈ w, p c = true) ∧ cs = dropEndWhile p cs ++ w := by
  refine ⟨cs.rtakeWhile p, ?_, ?_⟩
  · intro c hc
    exact List.mem_rtakeWhile_imp hc
  · exact List.rdropWhile_append_rtakeWhile.symm

theorem drop_end_while_append_of_all {p : Char → Bool} {cs w : List Char}
    (hw : ∀ c ∈ w, p c = true) : dropEndWhile p (cs ++ w) = dropEndWhile p cs := by
  simp only [dropEndWhile, List.reverse_append]
  rw [List.dropWhile_append_of_pos (by simpa using hw)]

theorem drop_end_while_of_last {p : Char → Bool} {cs : List Char}
    (h : ∀ c ∈ cs.getLast?, p c = false) : dropEndWhile p cs = cs := by
  rcases List.eq_nil_or_concat cs with rfl | ⟨ds, c, rfl⟩
  · rfl
  · have hc : p c = false := h c (by simp)
    simp [dropEndWhile, hc]

theorem drop_while_of_head {p : Char → Bool} {cs : List Char}
    (h : ∀ c ∈ cs.head?, p c = false) : cs.dropWhile p = cs := by
  cases cs with
  | nil => rfl
  | cons c cs => rw [List.dropWhile_cons, if_neg (by simp [h c rfl])]

/-- White space around a text is trimmed. -/
theorem trimmed_append {b cs w : List Char} (hb : ∀ c ∈ b, isBlank c = true)
    (hw : ∀ c ∈ w, isBlank c = true) (hhead : ∀ c ∈ cs.head?, isBlank c = false)
    (hlast : ∀ c ∈ cs.getLast?, isBlank c = false) : trimmed (b ++ cs ++ w) = cs := by
  have hdrop : (b ++ cs ++ w).dropWhile isBlank = (cs ++ w).dropWhile isBlank := by
    rw [List.append_assoc, List.dropWhile_append_of_pos hb]
  cases cs with
  | nil =>
    rw [trimmed, dropBothWhile, hdrop, List.nil_append, List.dropWhile_eq_nil_iff.mpr hw]
    rfl
  | cons c cs =>
    have hcs : (c :: cs ++ w).dropWhile isBlank = c :: cs ++ w :=
      drop_while_of_head (by simpa using hhead)
    rw [trimmed, dropBothWhile, hdrop, hcs, drop_end_while_append_of_all hw,
      drop_end_while_of_last hlast]

theorem trimmed_blank_append {b : List Char} (hb : ∀ c ∈ b, isBlank c = true) (l : List Char) :
    trimmed (b ++ l) = trimmed l := by
  rw [trimmed, trimmed, dropBothWhile, dropBothWhile, List.dropWhile_append_of_pos hb]

theorem trimmed_append_blank {w : List Char} (hw : ∀ c ∈ w, isBlank c = true) (l : List Char) :
    trimmed (l ++ w) = trimmed l := by
  rw [trimmed, trimmed, dropBothWhile, dropBothWhile, List.dropWhile_append]
  split_ifs with hblank
  · rw [List.isEmpty_iff.mp hblank, List.dropWhile_eq_nil_iff.mpr hw]
  · exact drop_end_while_append_of_all hw

/-- What is dropped at either end is made of the characters that are dropped. -/
theorem drop_both_while_append (p : Char → Bool) (cs : List Char) :
    ∃ b w, (∀ c ∈ b, p c = true) ∧ (∀ c ∈ w, p c = true) ∧ cs = b ++ dropBothWhile p cs ++ w := by
  obtain ⟨w, hw, hsplit⟩ := drop_end_while_append p (cs.dropWhile p)
  refine ⟨cs.takeWhile p, w, fun c hc => List.mem_takeWhile_imp hc, hw, ?_⟩
  rw [List.append_assoc, dropBothWhile, ← hsplit, List.takeWhile_append_dropWhile]

theorem trimmed_trimmed (cs : List Char) : trimmed (trimmed cs) = trimmed cs := by
  obtain ⟨b, w, hb, hw, hsplit⟩ := drop_both_while_append isBlank cs
  conv_rhs => rw [hsplit, trimmed_append_blank hw, trimmed_blank_append hb]
  rfl

theorem mem_of_mem_drop_both_while {p : Char → Bool} {c : Char} {cs : List Char}
    (h : c ∈ dropBothWhile p cs) : c ∈ cs := by
  obtain ⟨b, w, -, -, hsplit⟩ := drop_both_while_append p cs
  rw [hsplit]
  exact List.mem_append_left w (List.mem_append_right b h)

theorem mem_drop_both_while {p : Char → Bool} {c : Char} (hc : p c = false) {cs : List Char}
    (h : c ∈ cs) : c ∈ dropBothWhile p cs := by
  obtain ⟨b, w, hb, hw, hsplit⟩ := drop_both_while_append p cs
  have hkept (ds : List Char) (hds : ∀ d ∈ ds, p d = true) : c ∉ ds := by
    intro hmem
    rw [hds c hmem] at hc
    cases hc
  rw [hsplit, List.mem_append, List.mem_append] at h
  rcases h with (h | h) | h
  · exact absurd h (hkept b hb)
  · exact h
  · exact absurd h (hkept w hw)

theorem not_blank_iff (s : String) : isBlankText s = false ↔ ∃ c ∈ s.toList, isBlank c = false := by
  simp [isBlankText, List.all_eq_false]

theorem not_blank_trimmed {cs : List Char} (h : trimmed cs ≠ []) :
    isBlankText (String.ofList (trimmed cs)) = false := by
  have hlast : ¬ isBlank ((trimmed cs).getLast h) = true :=
    List.rdropWhile_last_not isBlank (cs.dropWhile isBlank) h
  rw [not_blank_iff, String.toList_ofList]
  exact ⟨_, List.getLast_mem h, by simpa using hlast⟩

theorem not_blank_trim {s : String} (h : isBlankText s = false) : isBlankText (trim s) = false := by
  rw [not_blank_iff] at h ⊢
  obtain ⟨c, hc, hvisible⟩ := h
  refine ⟨c, ?_, hvisible⟩
  rw [trim, String.toList_ofList]
  exact mem_drop_both_while hvisible hc

theorem not_blank_iff_trimmed (s : String) :
    isBlankText s = false ↔ trimmed s.toList ≠ [] := by
  constructor
  · intro h hnil
    have hkept := not_blank_trim h
    rw [trim, hnil] at hkept
    cases hkept
  · intro h
    obtain ⟨c, hc, hvisible⟩ := (not_blank_iff _).mp (not_blank_trimmed h)
    rw [String.toList_ofList] at hc
    exact (not_blank_iff s).mpr ⟨c, mem_of_mem_drop_both_while hc, hvisible⟩

/-- Trimming at the front stops at the first visible character. -/
theorem trim_start_append {s : String} (h : isBlankText s = false) (t : String) :
    trimStart (s ++ t) = trimStart s ++ t := by
  have hne : ¬ (s.toList.dropWhile isBlank).isEmpty = true := by
    obtain ⟨c, hc, hvisible⟩ := (not_blank_iff s).mp h
    rw [List.isEmpty_iff, List.dropWhile_eq_nil_iff]
    intro hall
    rw [hall c hc] at hvisible
    cases hvisible
  rw [trimStart, trimStart, String.toList_append, List.dropWhile_append, if_neg hne,
    String.ofList_append, String.ofList_toList]

/-! Digits and letters. -/

theorem visible_of_digit {c : Char} (h : c.isDigit = true) : isBlank c = false := by
  simp only [Char.isDigit, Bool.and_eq_true, decide_eq_true_eq, UInt32.le_iff_toNat_le,
    ge_iff_le] at h
  have hzero : '0'.val.toNat = 48 := rfl
  have hnine : '9'.val.toNat = 57 := rfl
  have hnat : c.toNat = c.val.toNat := rfl
  simp [isBlank, inRanges, blankRanges]
  omega

theorem visible_of_letter {c : Char} (h : c.isAlpha = true) : isBlank c = false := by
  simp only [Char.isAlpha, Char.isUpper, Char.isLower, Bool.or_eq_true, Bool.and_eq_true,
    decide_eq_true_eq, UInt32.le_iff_toNat_le, ge_iff_le] at h
  have hupper : 'A'.val.toNat = 65 ∧ 'Z'.val.toNat = 90 := ⟨rfl, rfl⟩
  have hlower : 'a'.val.toNat = 97 ∧ 'z'.val.toNat = 122 := ⟨rfl, rfl⟩
  have hnat : c.toNat = c.val.toNat := rfl
  simp [isBlank, inRanges, blankRanges]
  omega

theorem visible_of_name_char {c : Char} (h : (c.isAlphanum || c == '_') = true) :
    isBlank c = false := by
  rw [Char.isAlphanum, Bool.or_eq_true, Bool.or_eq_true] at h
  rcases h with (hletter | hdigit) | hunderscore
  · exact visible_of_letter hletter
  · exact visible_of_digit hdigit
  · rw [eq_of_beq hunderscore]
    decide

theorem ranges_apart {r s : Nat × Nat} (hr : r ∈ blankRanges) (hs : s ∈ wordRanges) :
    r.2 < s.1 ∨ s.2 < r.1 := by
  have hall : (blankRanges.all fun r => wordRanges.all fun s => r.2 < s.1 || s.2 < r.1) = true := by
    decide +kernel
  simpa using List.all_eq_true.mp (List.all_eq_true.mp hall r hr) s hs

theorem visible_of_word {c : Char} (h : isWord c = true) : isBlank c = false := by
  rw [isWord] at h
  split_ifs at h
  · exact visible_of_name_char h
  · obtain ⟨s, hs, hword⟩ := List.any_eq_true.mp h
    rw [isBlank, inRanges, List.any_eq_false]
    intro r hr hblank
    rw [Bool.and_eq_true, decide_eq_true_eq, decide_eq_true_eq] at hword hblank
    have hapart := ranges_apart hr hs
    omega

theorem isBlank_to_lower (c : Char) : isBlank c.toLower = isBlank c := by
  by_cases h : c.isUpper = true
  · have hc : c.isAlpha = true := by simp [Char.isAlpha, h]
    rw [visible_of_letter hc, visible_of_letter (by rwa [Char.isAlpha_toLower_eq_isAlpha])]
  · rw [Char.toLower_eq_of_not_isUpper h]

/-- A character that is no letter is made of no other one. -/
theorem to_lower_eq_iff {c d : Char} (hd : d.isAlpha = false) : c.toLower = d ↔ c = d := by
  by_cases h : c.isUpper = true
  · have hc : c.isAlpha = true := by simp [Char.isAlpha, h]
    constructor
    · rintro rfl
      rw [Char.isAlpha_toLower_eq_isAlpha, hc] at hd
      cases hd
    · rintro rfl
      rw [hc] at hd
      cases hd
  · rw [Char.toLower_eq_of_not_isUpper h]

theorem drop_while_map_lower (cs : List Char) :
    (cs.map Char.toLower).dropWhile isBlank = (cs.dropWhile isBlank).map Char.toLower := by
  have hsame : isBlank ∘ Char.toLower = isBlank := funext isBlank_to_lower
  rw [List.dropWhile_map, hsame]

/-- Trimming and making letters small may change places. -/
theorem trimmed_map_lower (cs : List Char) :
    trimmed (cs.map Char.toLower) = (trimmed cs).map Char.toLower := by
  simp only [trimmed, dropBothWhile, dropEndWhile, drop_while_map_lower, ← List.map_reverse]

end CodeJudge.Text
