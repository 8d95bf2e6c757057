import CodeJudge.Proofs.Text.Lines
import CodeJudge.Program
/-!
The layout of a program. The sections in front of the solution take the lines that the line of the
solution counts, so the lines from there on are those of the solution.
-/
namespace CodeJudge

/-- The part is left out of the program, or it has a line that is not empty. -/
def IsSection (part : String) : Prop := part = "" ∨ ∃ c ∈ part.toList, c ≠ '\n'

namespace Program

theorem not_empty_of_mem {s : String} {c : Char} (h : c ∈ s.toList) : s.isEmpty = false := by
  by_contra hempty
  rw [Bool.not_eq_false, String.isEmpty_iff] at hempty
  simp [hempty] at h

theorem sections_append (ps qs : List String) :
    sections (ps ++ qs) = sections ps ++ sections qs := by
  simp [sections]

theorem unended_of_mem_sections {parts : List String} (h : ∀ p ∈ parts, IsSection p) :
    ∀ s ∈ sections parts, Text.Unended s.toList := by
  intro s hs
  obtain ⟨p, hp, rfl⟩ := List.mem_map.mp hs
  obtain ⟨hp, hne⟩ := List.mem_filter.mp hp
  rcases h p hp with rfl | hc
  · simp at hne
  · exact Text.unended_drop_trailing_newlines hc

/-- Joined sections: those in front, each with an empty line behind it, and those that follow. -/
theorem to_list_join_append (xs ys : List String) (hy : ys ≠ []) :
    (String.intercalate "\n\n" (xs ++ ys)).toList =
      xs.flatMap (fun x => x.toList ++ ['\n', '\n']) ++ (String.intercalate "\n\n" ys).toList := by
  induction xs with
  | nil => rfl
  | cons x xs ih =>
    rw [List.cons_append, String.intercalate_cons_of_ne_nil (by simp [hy]), String.toList_append,
      String.toList_append, ih]
    simp

/-- Behind the first of joined sections the text goes on with a line feed and the others. -/
theorem to_list_join_cons (x : String) (xs : List String) :
    (String.intercalate "\n\n" (x :: xs) ++ "\n").toList =
      x.toList ++ '\n' :: xs.flatMap fun y => '\n' :: y.toList ++ ['\n'] := by
  induction xs generalizing x with
  | nil => simp
  | cons y ys ih =>
    have hy := ih y
    rw [String.toList_append] at hy ⊢
    rw [String.intercalate_cons_of_ne_nil (by simp), String.toList_append, String.toList_append,
      List.append_assoc, List.append_assoc, hy]
    simp

/-- The line on which the solution begins, from the lines in front of it. -/
theorem solution_line_eq (p : Program) :
    p.solutionLine = ((sections [p.header, p.definitions]).map Text.lineCount).sum +
      (sections [p.header, p.definitions]).length + 1 := by
  rw [solutionLine]
  cases sections [p.header, p.definitions] with
  | nil => rfl
  | cons x xs => rfl

/-- What follows the solution in the text, behind the end of its last line. -/
def epilogue (p : Program) : List Char :=
  (sections [p.driver]).flatMap fun y => '\n' :: y.toList ++ ['\n']

/-- The lines of the text: those of the sections in front of the solution, those of the solution,
and those behind it. -/
theorem lines_text {p : Program} (hheader : IsSection p.header)
    (hdefinitions : IsSection p.definitions) (hsolution : ∃ c ∈ p.solution.toList, c ≠ '\n')
    (hr : '\r' ∉ p.solution.toList) :
    ∃ front, front.length + 1 = p.solutionLine ∧ Text.lines p.text.toList = front ++
      (Text.lines (Text.dropTrailingNewlines p.solution).toList ++ Text.lines p.epilogue) := by
  have hparts : ∀ part ∈ [p.header, p.definitions], IsSection part := by
    simp [hheader, hdefinitions]
  have hne : p.solution.isEmpty = false := by
    obtain ⟨c, hc, -⟩ := hsolution
    exact not_empty_of_mem hc
  have hsections : sections [p.header, p.definitions, p.solution, p.driver] =
      sections [p.header, p.definitions] ++
        Text.dropTrailingNewlines p.solution :: sections [p.driver] := by
    rw [show [p.header, p.definitions, p.solution, p.driver] =
      [p.header, p.definitions] ++ p.solution :: [p.driver] from rfl, sections_append]
    simp [sections, hne]
  have hrest := to_list_join_cons (Text.dropTrailingNewlines p.solution) (sections [p.driver])
  -- the line feed behind the solution ends its last line and makes no other one
  have hopen := Text.unended_drop_trailing_newlines hsolution
  have hend := (Text.lines_concat hopen).2 (Text.last_drop_trailing_newlines hr)
  obtain ⟨front, hlen, hfront⟩ := Text.lines_sections _ (unended_of_mem_sections hparts)
    ((Text.dropTrailingNewlines p.solution).toList ++ '\n' :: p.epilogue)
  refine ⟨front, ?_, ?_⟩
  · rw [solution_line_eq, hlen]
  · rw [text, hsections, String.toList_append, to_list_join_append _ _ (by simp), List.append_assoc,
      ← String.toList_append, hrest, ← epilogue, hfront, Text.lines_append_newline, hend]

/-- From the line of the solution on the lines of the text are those of the solution. -/
theorem line_text_eq {p : Program} (hheader : IsSection p.header)
    (hdefinitions : IsSection p.definitions) (hr : '\r' ∉ p.solution.toList) {k : Nat}
    (hpos : 1 ≤ k) (hk : k ≤ Text.lineCount (Text.dropTrailingNewlines p.solution)) :
    ∃ line, Text.line? p.text (p.solutionLine + k - 1) = some line ∧
      Text.line? p.solution k = some line := by
  have hsolution := Text.exists_ne_newline_of_line hpos hk
  obtain ⟨front, hlen, htext⟩ := lines_text hheader hdefinitions hsolution hr
  rw [← Text.line_drop_trailing_newlines hr hpos hk]
  rw [Text.lineCount] at hk
  obtain ⟨line, hline⟩ : ∃ line,
      (Text.lines (Text.dropTrailingNewlines p.solution).toList)[k - 1]? = some line :=
    ⟨_, List.getElem?_eq_getElem (by omega)⟩
  refine ⟨String.ofList line, ?_, ?_⟩
  · rw [show p.solutionLine + k - 1 = front.length + k by omega, Text.line_of_lines htext hpos,
      List.getElem?_append_left (by omega), hline, Option.map_some]
  · rw [Text.line_eq _ hpos, hline, Option.map_some]

end Program

end CodeJudge
