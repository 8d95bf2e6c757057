import CodeJudge.Presentation
import CodeJudge.Proofs.Text.Lines
import CodeJudge.Proofs.Text.Pattern
import CodeJudge.Proofs.Text.Scan
/-!
Messages of one line. A message never has a line feed. It shows something unless it is the
beginning of a text, and then if a visible character comes early enough in that text.
-/
namespace CodeJudge

namespace Message

open Text

/-- The message shows something, on one line. -/
structure IsShownLine (m : String) : Prop where
  visible : isBlankText m = false
  one_line : '\n' ∉ m.toList

theorem IsShownLine.append {heading tail : String} (h : IsShownLine heading)
    (htail : '\n' ∉ tail.toList) : IsShownLine (heading ++ tail) := by
  obtain ⟨c, hc, hvisible⟩ := (not_blank_iff heading).mp h.visible
  refine ⟨(not_blank_iff _).mpr ⟨c, ?_, hvisible⟩, newline_not_mem_append h.one_line htail⟩
  rw [String.toList_append]
  exact List.mem_append_left _ hc

/-! The beginning of a text. -/

theorem newline_not_mem_first_line (s : String) : '\n' ∉ (firstLine s).toList := by
  rw [firstLine, String.toList_ofList]
  intro hmem
  have hline := List.mem_of_mem_take hmem
  cases hlines : lines s.toList with
  | nil => simp [hlines] at hline
  | cons l ls =>
    rw [hlines, List.headD_cons] at hline
    exact newline_not_mem_lines (hlines ▸ List.mem_cons_self) hline

/-- A visible character comes before the first line feed and among the first `bound` characters. -/
def OpensVisibly (bound : Nat) (cs : List Char) : Prop :=
  ∃ front c back, cs = front ++ c :: back ∧ isBlank c = false ∧ '\n' ∉ front ∧
    front.length < bound

theorem opens_visibly_cons {c : Char} (hn : c ≠ '\n') (bound : Nat) (cs : List Char) :
    OpensVisibly (bound + 1) (c :: cs) ↔ isBlank c = false ∨ OpensVisibly bound cs := by
  constructor
  · rintro ⟨front, d, back, hsplit, hvisible, hfree, hlen⟩
    cases front with
    | nil =>
      obtain ⟨rfl, -⟩ := List.cons_eq_cons.mp hsplit
      exact Or.inl hvisible
    | cons e front =>
      obtain ⟨-, hcs⟩ := List.cons_eq_cons.mp hsplit
      rw [List.mem_cons, not_or] at hfree
      exact Or.inr ⟨front, d, back, hcs, hvisible, hfree.2, Nat.lt_of_succ_lt_succ hlen⟩
  · rintro (hvisible | ⟨front, d, back, rfl, hvisible, hfree, hlen⟩)
    · exact ⟨[], c, cs, rfl, hvisible, List.not_mem_nil, Nat.succ_pos bound⟩
    · refine ⟨c :: front, d, back, rfl, hvisible, ?_, Nat.succ_lt_succ hlen⟩
      rw [List.mem_cons, not_or]
      exact ⟨Ne.symm hn, hfree⟩

/-- Nothing visible comes before a line feed in front. -/
theorem not_opens_visibly_newline (bound : Nat) (cs : List Char) :
    ¬ OpensVisibly bound ('\n' :: cs) := by
  rintro ⟨front, d, back, hsplit, hvisible, hfree, -⟩
  cases front with
  | nil =>
    obtain ⟨rfl, -⟩ := List.cons_eq_cons.mp hsplit
    cases hvisible
  | cons e front =>
    obtain ⟨rfl, -⟩ := List.cons_eq_cons.mp hsplit
    exact hfree List.mem_cons_self

theorem head_line_visible_iff (cs : List Char) (bound : Nat) :
    (∃ c ∈ ((lines cs).headD []).take bound, isBlank c = false) ↔ OpensVisibly bound cs := by
  have hnone (ds : List Char) : ¬ OpensVisibly 0 ds := by
    rintro ⟨front, d, back, -, -, -, hlen⟩
    exact Nat.not_lt_zero _ hlen
  induction cs using lines_induction generalizing bound with
  | nil =>
    refine iff_of_false (by simp [lines]) ?_
    rintro ⟨front, d, back, hsplit, -⟩
    simp at hsplit
  | newline cs => exact iff_of_false (by simp [lines]) (not_opens_visibly_newline bound cs)
  | carriage cs =>
    -- a carriage return is blank, and behind it the line is over
    refine iff_of_false (by simp [lines]) ?_
    cases bound with
    | zero => exact hnone _
    | succ bound =>
      rw [opens_visibly_cons (by decide)]
      exact not_or.mpr ⟨by decide, not_opens_visibly_newline bound cs⟩
  | char c cs hn hr ih =>
    have hhead : (lines (c :: cs)).headD [] = c :: (lines cs).headD [] := by
      rw [lines_cons hn hr]
      cases lines cs <;> rfl
    cases bound with
    | zero => exact iff_of_false (by simp) (hnone _)
    | succ bound =>
      have hrest : _ ↔ OpensVisibly bound cs := ih bound
      rw [hhead, List.take_succ_cons, opens_visibly_cons hn, ← hrest]
      simp

theorem first_line_visible_iff (s : String) :
    (∃ c ∈ (firstLine s).toList, isBlank c = false) ↔ OpensVisibly excerptLength s.toList := by
  rw [firstLine, String.toList_ofList]
  exact head_line_visible_iff s.toList excerptLength

/-! Messages with words of their own. -/

theorem newline_not_mem_place (s : String) : '\n' ∉ (place s).toList := by
  rw [place]
  cases hcapture : Location.wordForm.capture? s with
  | none => decide
  | some digits =>
    refine newline_not_mem_append (by decide) fun hmem => ?_
    -- the group for the number takes digits only
    exact absurd (Pattern.may_hold_of_capture hcapture '\n' hmem) (by decide)

/-- The words by which failures to compile are recognized. -/
def compilerWords : List String := ["SyntaxError", "IndentationError", "NameError", "TypeError"]

/-- A text that is there and not blank and has none of the words: its beginning is shown. -/
def excerpted? (words : List String) (text : Option String) : Option String :=
  (shown? text).filter fun s => words.all fun word => !Text.contains s word

theorem of_compilation_cases (text : Option String) :
    (excerpted? compilerWords text = none ∧ IsShownLine (ofCompilation text)) ∨
      ∃ s, excerpted? compilerWords text = some s ∧ ofCompilation text = firstLine s := by
  rw [excerpted?, ofCompilation]
  cases shown? text with
  | none => exact Or.inl ⟨rfl, by decide, by decide⟩
  | some s =>
    have hplace := newline_not_mem_place s
    have hsyntax : IsShownLine ("Syntax Error" ++ place s) :=
      IsShownLine.append ⟨by decide, by decide⟩ hplace
    have hindentation : IsShownLine ("Indentation Error" ++ place s) :=
      IsShownLine.append ⟨by decide, by decide⟩ hplace
    have hname : IsShownLine ("Name Error" ++ place s ++ ": Variable not defined") :=
      IsShownLine.append (IsShownLine.append ⟨by decide, by decide⟩ hplace) (by decide)
    have htype : IsShownLine ("Type Error" ++ place s) :=
      IsShownLine.append ⟨by decide, by decide⟩ hplace
    dsimp only
    split_ifs with hs hi hn ht
    · exact Or.inl ⟨by simp [compilerWords, hs], hsyntax⟩
    · exact Or.inl ⟨by simp [compilerWords, hi], hindentation⟩
    · exact Or.inl ⟨by simp [compilerWords, hn], hname⟩
    · exact Or.inl ⟨by simp [compilerWords, ht], htype⟩
    · exact Or.inr ⟨s, by simp [compilerWords, hs, hi, hn, ht], rfl⟩

/-- The words by which crashes are recognized. -/
def crashWords : List String := crashes.map (·.1)

theorem crash_message_shown {entry : String × String} (h : entry ∈ crashes) :
    IsShownLine entry.2 := by
  have htable : ∀ entry ∈ crashes,
      isBlankText entry.2 = false ∧ '\n' ∉ entry.2.toList := by decide
  exact ⟨(htable entry h).1, (htable entry h).2⟩

theorem of_crash_cases (text : Option String) :
    (excerpted? crashWords text = none ∧ IsShownLine (ofCrash text)) ∨
      ∃ s, excerpted? crashWords text = some s ∧ ofCrash text = firstLine s := by
  rw [excerpted?, ofCrash]
  cases shown? text with
  | none => exact Or.inl ⟨rfl, by decide, by decide⟩
  | some s =>
    dsimp only
    cases hfind : crashes.find? fun entry => Text.contains s entry.1 with
    | some entry =>
      have hmem := List.mem_of_find?_eq_some hfind
      have hword := List.find?_some hfind
      refine Or.inl ⟨?_, crash_message_shown hmem⟩
      rw [Option.filter_some, if_neg]
      simp only [crashWords, List.all_map, List.all_eq_true, not_forall]
      exact ⟨entry, hmem, by simp [hword]⟩
    | none =>
      refine Or.inr ⟨s, ?_, rfl⟩
      rw [Option.filter_some, if_pos]
      simpa [crashWords] using List.find?_eq_none.mp hfind

end Message

open Message

namespace ExecutionOutcome

/-- The text whose beginning is the message of an outcome, if there is one. -/
def excerpted? (o : ExecutionOutcome) : Option String :=
  match o.kind with
  | .compilationError => Message.excerpted? compilerWords o.compilerText
  | .runtimeError => Message.excerpted? crashWords o.error
  | _ => none

theorem message_cases (o : ExecutionOutcome) :
    (o.excerpted? = none ∧ IsShownLine o.message) ∨
      ∃ s, o.excerpted? = some s ∧ o.message = firstLine s := by
  rw [excerpted?, message]
  cases o.kind with
  | compilationError => exact of_compilation_cases o.compilerText
  | runtimeError => exact of_crash_cases o.error
  | timeLimitExceeded | memoryLimitExceeded | wrongAnswer | accepted | internalError =>
    dsimp only
    exact Or.inl ⟨rfl, by decide, by decide⟩

end ExecutionOutcome

namespace Presentation

/-- A message has no line feed, and it shows something exactly if a visible character opens the
text whose beginning it is, where it is one. -/
theorem message_shown_iff (o : ExecutionOutcome) :
    '\n' ∉ o.presentation.message.toList ∧
    ((∃ c ∈ o.presentation.message.toList, Text.isBlank c = false) ↔
      ∀ s ∈ o.excerpted?, OpensVisibly 100 s.toList) := by
  have hmessage : o.presentation.message = o.message := rfl
  rw [hmessage]
  rcases o.message_cases with ⟨hnone, hshown⟩ | ⟨s, hsome, hline⟩
  · rw [hnone]
    have hvisible := (Text.not_blank_iff o.message).mp hshown.visible
    exact ⟨hshown.one_line, iff_of_true hvisible (by simp)⟩
  · rw [hline, hsome]
    refine ⟨newline_not_mem_first_line s, ?_⟩
    rw [first_line_visible_iff, excerptLength]
    simp

/-- A crash whose text begins with spaces and goes on with other lines. -/
theorem message_shown_of_indented_text :
    let o : ExecutionOutcome := { verdict := some .runtimeError, error := some "   lost\n\nat 4" }
    o.excerpted? = some "   lost\n\nat 4" ∧ OpensVisibly 100 "   lost\n\nat 4".toList ∧
      '\n' ∉ o.presentation.message.toList ∧
      ∃ c ∈ o.presentation.message.toList, Text.isBlank c = false := by
  intro o
  have htext : o.excerpted? = some "   lost\n\nat 4" := by decide
  have hopens : OpensVisibly 100 "   lost\n\nat 4".toList :=
    ⟨"   ".toList, 'l', "ost\n\nat 4".toList, by decide, by decide, by decide, by decide⟩
  obtain ⟨hline, hvisible⟩ := message_shown_iff o
  refine ⟨htext, hopens, hline, hvisible.mpr ?_⟩
  intro s hs
  obtain rfl : s = "   lost\n\nat 4" := Option.some_injective _ (hs.symm.trans htext)
  exact hopens

/-- The output of a compiler that begins with an empty line gives an empty message. -/
theorem message_blank_of_empty_first_line :
    let o : ExecutionOutcome :=
      { status := some .compilationError, compileOutput := some "\nmain.cpp:3: error: no" }
    o.presentation.message = "" ∧
      ¬ ∃ c ∈ o.presentation.message.toList, Text.isBlank c = false := by
  intro o
  have hmessage : o.presentation.message = "" := by decide
  refine ⟨hmessage, ?_⟩
  rw [hmessage]
  rintro ⟨c, hc, -⟩
  cases hc

end Presentation

end CodeJudge
