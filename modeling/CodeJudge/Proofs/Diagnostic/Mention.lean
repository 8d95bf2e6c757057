import CodeJudge.Diagnostic.Location
import CodeJudge.Proofs.Text.Occurrence
/-!
The numbers that a text mentions. A number is mentioned behind the word for a line and behind the
name of a source file. Neither goes on with the character that it begins with, and no digit is
that character, so every occurrence is found.
-/
namespace CodeJudge.Location

open Text (Pattern behindEach)

/-- The words behind which a line is mentioned, in small letters. -/
def lineWords : List (List Char) := ["line ".toList]

/-- The ends of names of source files with the colon in front of a line. -/
def fileMarks : List (List Char) := fileEndings.map fun e => '.' :: e.toList ++ [':']

theorem word_form_reads : wordForm.ReadsRuns Char.toLower lineWords .digit := by
  have hspells : (Pattern.anyCase "line ").Spells Char.toLower lineWords :=
    Pattern.Spells.any_case (by simp)
  exact hspells.reads_runs .digit

theorem file_form_reads : fileForm.ReadsRuns id fileMarks .digit := by
  have hspells : (Pattern.all [.text ".", .oneOf (fileEndings.map .text), .text ":"]).Spells id
      fileMarks :=
    (Pattern.Spells.text ".").both ((Pattern.Spells.one_of (by decide)).both
      ((Pattern.Spells.text ":").both (Pattern.Spells.nothing id)))
  intro a
  -- the run stands last in the list of patterns
  exact (Pattern.ends_all_concat _ _ a).trans (hspells.reads_runs .digit a)

/-- A digit has no other letter case. -/
theorem to_lower_digit {d : Char} (hd : Text.isDigit d = true) : d.toLower = d := by
  apply Char.toLower_eq_of_not_isUpper
  intro hupper
  simp only [Char.isUpper, decide_eq_true_eq, UInt32.le_iff_toNat_le] at hupper
  have hfirst : 65 ≤ d.toNat := hupper.1
  have hlast : d.toNat ≤ 90 := hupper.2
  rw [Text.isDigit, if_pos (by omega)] at hd
  simp only [Char.isDigit, Bool.and_eq_true, decide_eq_true_eq, UInt32.le_iff_toNat_le] at hd
  have hnine : d.toNat ≤ 57 := hd.2
  omega

theorem line_words_stand_apart :
    Pattern.StandApart Char.toLower lineWords .digit := by
  refine ⟨List.pairwise_singleton _ _, 'l', ?_, ?_⟩
  · intro w hw
    exact ⟨"ine ".toList, List.mem_singleton.mp hw, by decide⟩
  intro d hd hl
  rw [to_lower_digit hd] at hl
  subst hl
  cases hd

theorem file_marks_stand_apart : Pattern.StandApart id fileMarks .digit := by
  refine ⟨by decide, '.', ?_, ?_⟩
  · have hlater : ∀ e ∈ fileEndings, '.' ∉ e.toList ++ [':'] := by decide
    intro w hw
    obtain ⟨e, he, rfl⟩ := List.mem_map.mp hw
    exact ⟨_, rfl, hlater e he⟩
  · rintro d hd rfl
    cases hd

/-- A run stands for a number if it is not empty, has ASCII digits only and fits into 64 bits. -/
theorem line_number_eq_some_iff (run : List Char) (n : Nat) :
    lineNumber? run = some n ↔ run ≠ [] ∧ (∀ c ∈ run, c.isDigit = true) ∧
      n = Nat.ofDigitChars 10 run 0 ∧ n < 2 ^ 64 := by
  have hvalue : Binary64.natOf run = Nat.ofDigitChars 10 run 0 := rfl
  rw [lineNumber?, hvalue, Option.ite_none_right_eq_some]
  simp only [Bool.and_eq_true, Bool.not_eq_true', List.isEmpty_eq_false_iff, List.all_eq_true,
    decide_eq_true_eq, Option.some.injEq, and_assoc]
  constructor
  · rintro ⟨hne, hall, hfits, rfl⟩
    exact ⟨hne, hall, rfl, hfits⟩
  · rintro ⟨hne, hall, rfl, hfits⟩
    exact ⟨hne, hall, hfits, rfl⟩

/-- The numbers that the digits behind the words stand for, at all their occurrences. -/
def numbersBehind (fold : Char → Char) (words : List (List Char)) (raw : String) : List Nat :=
  ((behindEach fold words raw.toList).map (·.takeWhile Text.isDigit)).filterMap lineNumber?

section

variable {form : Pattern} {fold : Char → Char} {words : List (List Char)} {raw : String}

theorem mentions_eq (hreads : form.ReadsRuns fold words .digit)
    (hapart : Pattern.StandApart fold words .digit) (raw : String) :
    mentions form raw = numbersBehind fold words raw := by
  have hruns : mentions form raw =
      ((form.findAll raw).filterMap fun found => found.2.group? 1).filterMap lineNumber? :=
    List.filterMap_filterMap.symm
  rw [hruns, hreads.find_all_runs hapart, List.filterMap_filter]
  refine List.filterMap_congr fun run _ => ?_
  -- nothing is lost with the empty runs
  cases run <;> rfl

theorem mem_numbers_behind {front u rest : List Char} {n : Nat}
    (hraw : raw.toList = front ++ (u ++ rest)) (hu : u.map fold ∈ words)
    (hn : n ∈ lineNumber? (rest.takeWhile Text.isDigit)) : n ∈ numbersBehind fold words raw := by
  have hrest : rest ∈ behindEach fold words raw.toList :=
    Text.mem_behind_each_iff.mpr ⟨front, u, hraw, hu⟩
  exact List.mem_filterMap.mpr ⟨_, List.mem_map_of_mem hrest, hn⟩

end

/-- All lines mentioned are the numbers behind the word for a line and then those behind the name
of a source file, in the order of the text, and no occurrence of either is hidden by another one. -/
theorem candidates_eq_numbers_behind (raw : String) :
    candidates raw =
      numbersBehind Char.toLower lineWords raw ++ numbersBehind id fileMarks raw ∧
    (∀ run n, lineNumber? run = some n ↔ run ≠ [] ∧ (∀ c ∈ run, c.isDigit = true) ∧
      n = Nat.ofDigitChars 10 run 0 ∧ n < 2 ^ 64) ∧
    ∀ front u rest, raw.toList = front ++ (u ++ rest) →
      u.map Char.toLower ∈ lineWords ∨ u ∈ fileMarks →
        ∀ n ∈ lineNumber? (rest.takeWhile Text.isDigit), n ∈ candidates raw := by
  have heq : candidates raw =
      numbersBehind Char.toLower lineWords raw ++ numbersBehind id fileMarks raw := by
    rw [candidates, mentions_eq word_form_reads line_words_stand_apart,
      mentions_eq file_form_reads file_marks_stand_apart]
  refine ⟨heq, line_number_eq_some_iff, ?_⟩
  intro front u rest hraw hu n hn
  rw [heq, List.mem_append]
  rcases hu with hu | hu
  · exact .inl (mem_numbers_behind hraw hu hn)
  · exact .inr (mem_numbers_behind hraw (by rwa [List.map_id]) hn)

/-- A word right in front of a mention does not hide it, and a mention does not hide the name of a
source file right behind it. -/
theorem candidates_of_adjacent_words :
    "LINE line 12.h:7".toList = "LINE ".toList ++ ("line ".toList ++ "12.h:7".toList) ∧
      12 ∈ candidates "LINE line 12.h:7" ∧ 7 ∈ candidates "LINE line 12.h:7" := by
  obtain ⟨-, -, hevery⟩ := candidates_eq_numbers_behind "LINE line 12.h:7"
  refine ⟨by decide, ?_, ?_⟩
  · exact hevery "LINE ".toList "line ".toList "12.h:7".toList (by decide) (.inl (by decide)) 12
      (by decide)
  · exact hevery "LINE line 12".toList ".h:".toList "7".toList (by decide) (.inr (by decide)) 7
      (by decide)

end CodeJudge.Location
