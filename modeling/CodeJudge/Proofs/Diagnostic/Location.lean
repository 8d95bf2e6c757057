import CodeJudge.Diagnostic.Location
import CodeJudge.Proofs.Program.Layout
/-!
Locations in a program. A line that a tool reports of a whole program is traced back to the line of
the solution that stands there, and shown with its number in the solution, unless more lines around
it are asked for than can be counted.
-/
namespace CodeJudge.Location

/-- A mention of one line only is traced back if that line lies in the solution. -/
theorem find_of_mentioned {raw : String} {offset line : Nat} {source : Option String}
    (hraw : ∀ n, n ∈ candidates raw ↔ n = line) (hoffset : offset < line)
    (hwithin : isWithin source (line - offset) = true) :
    find? raw offset source = some (line - offset) := by
  obtain ⟨rest, hrest⟩ : ∃ rest, candidates raw = line :: rest := by
    cases hc : candidates raw with
    | nil =>
      have hline := (hraw line).mpr rfl
      rw [hc] at hline
      cases hline
    | cons n rest =>
      have hn := (hraw n).mp (by simp [hc])
      exact ⟨rest, by rw [hn]⟩
  rw [find?, hrest, List.filter_cons_of_pos (by simpa using hoffset), List.map_cons,
    List.find?_cons_of_pos hwithin]

theorem bounds_of_line {source line : String} {k : Nat} (h : Text.line? source k = some line) :
    1 ≤ k ∧ k ≤ Text.lineCount source := by
  rw [Text.line?] at h
  split_ifs at h with hk
  obtain ⟨hlt, -⟩ := List.getElem?_eq_some_iff.mp h
  rw [Text.linesOf, List.length_map] at hlt
  rw [Text.lineCount]
  omega

theorem is_within_of_line {source line : String} {k : Nat}
    (h : Text.line? source k = some line) : isWithin (some source) k = true :=
  decide_eq_true (bounds_of_line h).2

theorem place_behind_of_fits {index count : Nat} (h : index + count + 1 < UInt64.size) :
    placeBehind index count = .ok (index + count + 1) := by
  rw [placeBehind, addSize_of_fits (by omega)]
  exact addSize_of_fits h

/-- Either sum may be the one that is too large. -/
theorem place_behind_of_not_fits {index count : Nat} (h : ¬ index + count + 1 < UInt64.size) :
    placeBehind index count = .error .size := by
  rw [placeBehind]
  by_cases hlast : index + count < UInt64.size
  · rw [addSize_of_fits hlast]
    exact addSize_of_not_fits h
  · rw [addSize_of_not_fits hlast]
    rfl

section Context

variable {source : String} {n count : Nat}

theorem context_eq (hpos : 1 ≤ n) (hn : n ≤ Text.lineCount source) :
    context? source n count = (placeBehind (n - 1) count).map fun last => some {
      before := numberedRange (Text.linesOf source) (n - 1 - count) (n - 1)
      errorLine := numbered (Text.linesOf source) (n - 1)
      after := numberedRange (Text.linesOf source) n (min last (Text.lineCount source)) } := by
  have hlen : (Text.linesOf source).length = Text.lineCount source := by
    rw [Text.linesOf, List.length_map, Text.lineCount]
  have hin : ¬ (n = 0 ∨ Text.lineCount source < n) := by omega
  have hnext : n - 1 + 1 = n := by omega
  rw [context?]
  dsimp only
  rw [hlen, if_neg hin, hnext]
  rfl

/-- The context of a line is given if the place where it ends is a number of 64 bits. -/
theorem context_of_fits (hpos : 1 ≤ n) (hn : n ≤ Text.lineCount source)
    (hfits : n + count < UInt64.size) :
    context? source n count = .ok (some {
      before := numberedRange (Text.linesOf source) (n - 1 - count) (n - 1)
      errorLine := numbered (Text.linesOf source) (n - 1)
      after :=
        numberedRange (Text.linesOf source) n (min (n + count) (Text.lineCount source)) }) := by
  have hend : n - 1 + count + 1 = n + count := by omega
  rw [context_eq hpos hn, place_behind_of_fits (by rwa [hend]), hend]
  rfl

theorem context_of_not_fits (hpos : 1 ≤ n) (hn : n ≤ Text.lineCount source)
    (hlarge : ¬ n + count < UInt64.size) : context? source n count = .error .size := by
  rw [context_eq hpos hn, place_behind_of_not_fits (by omega)]
  rfl

end Context

/-- The context of a line that the code has shows that line behind its number. -/
theorem context_of_line {source line : String} {k count : Nat}
    (h : Text.line? source k = some line) (hfits : k + count < UInt64.size) :
    ∃ c, context? source k count = .ok (some c) ∧ c.errorLine = toString k ++ ": " ++ line := by
  obtain ⟨hpos, hk⟩ := bounds_of_line h
  refine ⟨_, context_of_fits hpos hk hfits, ?_⟩
  rw [Text.line?, if_neg (Nat.ne_of_gt hpos)] at h
  have hline : (Text.linesOf source).getD (k - 1) "" = line := by
    rw [List.getD_eq_getElem?_getD, h, Option.getD_some]
  dsimp only [numbered]
  rw [hline, Nat.sub_add_cancel hpos]

/-- A reported line of a program is the line of the solution that it is traced back to, and that
is the line that is shown, as long as the place where its context ends is a number of 64 bits. -/
theorem locates_solution_line (p : Program) (hheader : IsSection p.header)
    (hdefinitions : IsSection p.definitions) (hsolution : '\r' ∉ p.solution.toList) (k : Nat)
    (hpos : 1 ≤ k) (hk : k ≤ Text.lineCount (Text.dropTrailingNewlines p.solution))
    (raw : String) (hraw : ∀ n, n ∈ candidates raw ↔ n = p.solutionLine + k - 1) :
    ∃ line, Text.line? p.text (p.solutionLine + k - 1) = some line ∧
      Text.line? p.solution k = some line ∧
      find? raw (p.solutionLine - 1) (some p.solution) = some k ∧
      ∀ count,
        (k + count < UInt64.size → ∃ c, context? p.solution k count = .ok (some c) ∧
          c.errorLine = toString k ++ ": " ++ line) ∧
        (UInt64.size ≤ k + count → context? p.solution k count = .error .size) := by
  obtain ⟨line, htext, hsource⟩ := Program.line_text_eq hheader hdefinitions hsolution hpos hk
  have hstart : 1 ≤ p.solutionLine := by
    rw [Program.solution_line_eq]
    omega
  -- the offset is the number of lines above the solution, so that its first line is line 1 again
  have hback : p.solutionLine + k - 1 - (p.solutionLine - 1) = k := by omega
  have hfind := find_of_mentioned hraw (show p.solutionLine - 1 < _ by omega)
    (by rw [hback]; exact is_within_of_line hsource)
  rw [hback] at hfind
  refine ⟨line, htext, hsource, hfind, fun count => ⟨context_of_line hsource, ?_⟩⟩
  intro hlarge
  obtain ⟨hfirst, hlast⟩ := bounds_of_line hsource
  exact context_of_not_fits hfirst hlast (Nat.not_lt.mpr hlarge)

/-- A program of three lines in front of a solution of two. -/
def sampleProgram : Program where
  header := "import json\n"
  definitions := "def helper():\n    pass\n"
  solution := "def solve():\n    return 1\n"
  driver := "print(solve())\n"
  skeleton := ""

theorem locates_second_line : ∃ line, Text.line? sampleProgram.text 7 = some line ∧
    Text.line? sampleProgram.solution 2 = some line ∧
    find? "main.py:7: in solve" (sampleProgram.solutionLine - 1) (some sampleProgram.solution) =
      some 2 ∧
    ∀ count, (2 + count < UInt64.size →
        ∃ c, context? sampleProgram.solution 2 count = .ok (some c) ∧
          c.errorLine = "2" ++ ": " ++ line) ∧
      (UInt64.size ≤ 2 + count → context? sampleProgram.solution 2 count = .error .size) := by
  have hraw : candidates "main.py:7: in solve" = [7] := by decide
  have hline : sampleProgram.solutionLine + 2 - 1 = 7 := by decide
  refine locates_solution_line sampleProgram (Or.inr ⟨'i', by decide, by decide⟩)
    (Or.inr ⟨'d', by decide, by decide⟩) (by decide) 2 (by decide) (by decide) _ ?_
  simp [hraw, hline]

/-- The first line of the solution cannot be shown with the greatest number of lines around it. -/
theorem no_context_of_greatest_count :
    let raw := "main.py:6: in <module>"
    let p := sampleProgram
    IsSection p.header ∧ IsSection p.definitions ∧ '\r' ∉ p.solution.toList ∧
    candidates raw = [p.solutionLine] ∧ Text.line? p.text p.solutionLine = some "def solve():" ∧
    find? raw (p.solutionLine - 1) (some p.solution) = some 1 ∧
    context? p.solution 1 0xffffffffffffffff = .error .size ∧
    ¬ ∃ c, context? p.solution 1 0xffffffffffffffff = .ok (some c) ∧
      c.errorLine = "1: def solve():" := by
  intro raw p
  have herror : context? p.solution 1 0xffffffffffffffff = .error .size :=
    context_of_not_fits (by decide) (by decide) (by decide)
  refine ⟨Or.inr ⟨'i', by decide, by decide⟩, Or.inr ⟨'d', by decide, by decide⟩, by decide,
    by decide, by decide, by decide, herror, ?_⟩
  rintro ⟨c, hc, -⟩
  rw [herror] at hc
  cases hc

end CodeJudge.Location
