import CodeJudge.Proofs.Program.Generate
import CodeJudge.Proofs.Solution.Java
/-!
Mapping lines back. A generated program holds the lines of the code where its line of the solution
says, unless it is a Java program whose solution is not the code as it is. That this is the only
exception is shown by counting: what is lost of a Java solution is lost from its lines, and the
driver that follows it cannot stand in for them, since it opens a brace that the code lacks.
-/
namespace CodeJudge

namespace Program

/-- Each line of the code, line feeds at the end apart, stands on the line of the program that is
traced back to it. -/
def MapsLines (p : Program) (code : String) : Prop :=
  ∀ k, 1 ≤ k → k ≤ Text.lineCount (Text.dropTrailingNewlines code) →
    Text.line? p.text (p.solutionLine + k - 1) = Text.line? code k

/-- The first line of the class that a Java driver opens. -/
def mainLine : List Char := "public class Main \x7b".toList

/-- Behind the solution of a Java program stand an empty line and a line with a brace. -/
theorem lines_java_epilogue {p : Program} (h : mainLine <+: p.driver.toList) :
    ∃ l ls, Text.lines p.epilogue = [] :: l :: ls ∧ '\x7b' ∈ l := by
  obtain ⟨rest, hrest⟩ := Text.prefix_drop_trailing_newlines (by decide) h
  have hne : p.driver.isEmpty = false :=
    not_empty_of_mem (h.subset (show '\x7b' ∈ mainLine by decide))
  have hepilogue : p.epilogue = '\n' :: (mainLine ++ (rest ++ ['\n'])) := by
    rw [epilogue, sections, List.filter_singleton, hne]
    simp [← hrest]
  obtain ⟨l, ls, hl⟩ := @Text.lines_of_prefix mainLine (by decide) (by decide) (by decide)
    (rest ++ ['\n'])
  refine ⟨mainLine ++ l, ls, by rw [hepilogue, Text.lines_newline, hl], ?_⟩
  exact List.mem_append_left _ (by decide)

section Lines

variable {p : Program} (hheader : IsSection p.header) (hdefinitions : IsSection p.definitions)
variable (hr : '\r' ∉ p.solution.toList) {code : String} (hcode : '\r' ∉ code.toList)

include hheader hdefinitions hr hcode

/-- A solution that is the code, line feeds at the end apart, is mapped back. -/
theorem maps_lines_of_solution
    (h : Text.dropTrailingNewlines p.solution = Text.dropTrailingNewlines code) :
    p.MapsLines code := by
  intro k hpos hk
  have hk' : k ≤ Text.lineCount (Text.dropTrailingNewlines p.solution) := by rwa [h]
  obtain ⟨line, htext, hsource⟩ := line_text_eq hheader hdefinitions hr hpos hk'
  rw [htext, ← hsource, ← Text.line_drop_trailing_newlines hr hpos hk', h,
    Text.line_drop_trailing_newlines hcode hpos hk]

variable (hsolution : ∃ c ∈ p.solution.toList, c ≠ '\n') (h : p.MapsLines code)

include hsolution h

/-- The lines of code that is mapped back are those of the program from the solution on. -/
theorem lines_of_maps :
    Text.lines (Text.dropTrailingNewlines code).toList =
      (Text.lines (Text.dropTrailingNewlines p.solution).toList ++ Text.lines p.epilogue).take
        (Text.lineCount (Text.dropTrailingNewlines code)) := by
  obtain ⟨front, hlen, htext⟩ := lines_text hheader hdefinitions hsolution hr
  have hinjective : Function.Injective (Option.map String.ofList) :=
    Option.map_injective fun _ _ => String.ofList_injective
  apply List.ext_getElem?
  intro i
  by_cases hi : i < Text.lineCount (Text.dropTrailingNewlines code)
  · have hpos : 1 ≤ i + 1 := Nat.le_add_left 1 i
    have hmap := h (i + 1) hpos hi
    have hline : p.solutionLine + (i + 1) - 1 = front.length + (i + 1) := by omega
    rw [hline, Text.line_of_lines htext hpos, ← Text.line_drop_trailing_newlines hcode hpos hi,
      Text.line_eq _ hpos] at hmap
    rw [List.getElem?_take_of_lt hi]
    exact (hinjective hmap).symm
  · have hge : Text.lineCount (Text.dropTrailingNewlines code) ≤ i := Nat.le_of_not_lt hi
    rw [List.getElem?_eq_none hge, List.getElem?_take_eq_none hge]

/-- If a class is opened behind a solution that has all braces of the code, then the code ends no
later than the solution. -/
theorem prefix_of_maps (hdriver : mainLine <+: p.driver.toList)
    (hline : ∃ c ∈ code.toList, c ≠ '\n')
    (hbraces : code.toList.countP (· == '\x7b') ≤ p.solution.toList.countP (· == '\x7b')) :
    Text.lines (Text.dropTrailingNewlines code).toList <+:
      Text.lines (Text.dropTrailingNewlines p.solution).toList := by
  have hlines := lines_of_maps hheader hdefinitions hr hcode hsolution h
  obtain ⟨l, ls, hepilogue, hbrace⟩ := lines_java_epilogue hdriver
  by_cases hfit : Text.lineCount (Text.dropTrailingNewlines code) ≤
      (Text.lines (Text.dropTrailingNewlines p.solution).toList).length
  · rw [hlines, List.take_append_of_le_length hfit]
    exact List.take_prefix _ _
  · exfalso
    obtain ⟨m, hm⟩ := Nat.exists_eq_add_of_lt (Nat.lt_of_not_le hfit)
    rw [hepilogue, hm, Nat.add_assoc, List.take_length_add_append, List.take_succ_cons] at hlines
    cases m with
    | zero =>
      -- the code would end with an empty line
      apply Text.last_line_ne_nil (Text.unended_drop_trailing_newlines hline)
      rw [hlines, List.take_zero, List.getLast?_concat]
    | succ m =>
      -- the code would have the brace of the driver
      have hcount := Text.count_drop_trailing_newlines (p := (· == '\x7b')) (by decide) code
      have hsame := Text.count_drop_trailing_newlines (p := (· == '\x7b')) (by decide) p.solution
      rw [← Text.count_lines (by decide) fun h =>
          absurd h (Text.no_return_drop_trailing_newlines hcode), hlines,
        List.take_succ_cons, List.map_append, List.sum_append, List.map_cons, List.map_cons,
        List.sum_cons, List.sum_cons,
        Text.count_lines (by decide) fun h =>
          absurd h (Text.no_return_drop_trailing_newlines hr)] at hcount
      have hpos : 0 < l.countP (· == '\x7b') := List.countP_pos_iff.mpr ⟨_, hbrace, by simp⟩
      omega

end Lines

theorem exists_ne_newline_of_not_blank {code : String} (h : Text.isBlankText code = false) :
    ∃ c ∈ code.toList, c ≠ '\n' := by
  rw [Text.isBlankText, List.all_eq_false] at h
  obtain ⟨c, hc, hvisible⟩ := h
  refine ⟨c, hc, ?_⟩
  rintro rfl
  exact hvisible (by decide)

/-- A Java program maps back only code that it holds as it is. -/
theorem verbatim_of_maps_lines {p : Plan} (ht : p.target = .java) {code : String}
    (hline : ∃ c ∈ code.toList, c ≠ '\n') (hr : '\r' ∉ code.toList) {tests : List TestCase}
    (h : (p.assembled code tests).MapsLines code) : JavaSource.Verbatim code := by
  have hheader : IsSection (p.assembled code tests).header := p.is_section_header code
  have hdefinitions : IsSection (p.assembled code tests).definitions := p.is_section_definitions
  have hsolution := Plan.solution_of_java ht code tests
  have hdriver : mainLine <+: (p.assembled code tests).driver.toList := by
    obtain ⟨rest, hrest⟩ := p.java_driver_head tests
    rw [Plan.driver_of_java ht]
    exact ⟨rest, hrest.symm⟩
  have hreturn := JavaSource.body_no_return hr
  have hbody := JavaSource.body_not_empty code
  have hbraces := JavaSource.braces_le_body hr
  rw [← hsolution] at hreturn hbody hbraces
  have hprefix := prefix_of_maps hheader hdefinitions hreturn hr hbody h hdriver hline hbraces
  rw [hsolution] at hreturn hbody hprefix
  apply JavaSource.verbatim_of_body hr
  · exact Text.first_line_of_prefix hline hbody hr hreturn hprefix
  · exact Text.count_le_of_prefix hr hreturn hprefix (by decide)

/-- The lines of a generated program are traced back to the lines of the code exactly if it is not
a Java program or the code is held as it is. -/
theorem maps_lines_iff {r : Registry} {tolerance : Binary64} {t : Target} {code : String}
    {problem : Problem} {tests : List TestCase} {prog : Program}
    (h : generate r tolerance t code problem tests = .ok prog) (hr : '\r' ∉ code.toList) :
    prog.MapsLines code ↔ (t = .java → JavaSource.Verbatim code) := by
  obtain ⟨hblank, p, rfl, rfl⟩ := exists_plan h
  have hheader : IsSection (p.assembled code tests).header := p.is_section_header code
  have hdefinitions : IsSection (p.assembled code tests).definitions := p.is_section_definitions
  constructor
  · intro hmaps ht
    exact verbatim_of_maps_lines ht (exists_ne_newline_of_not_blank hblank) hr hmaps
  · intro hverbatim
    by_cases ht : p.target = .java
    · have hsolution := Plan.solution_of_java ht code tests
      refine maps_lines_of_solution hheader hdefinitions ?_ hr ?_
      · rw [hsolution]
        exact JavaSource.body_no_return hr
      · rw [hsolution, JavaSource.body_of_verbatim (hverbatim ht) hr]
        exact Text.drop_trailing_newlines_idem code
    · have hsolution := Plan.solution_of_not_java ht code tests
      refine maps_lines_of_solution hheader hdefinitions ?_ hr ?_
      · rwa [hsolution]
      · rw [hsolution]

/-- A problem whose function has no parameters. -/
def oneProblem : Problem := ((Problem.named "one").withReturn "int").describedBySignature

/-- A test of a function without parameters. -/
def oneTest : TestCase := ⟨.number (.int 1), [], .number (.int 1)⟩

/-- A Java solution that declares its class. -/
def oneClass : String :=
  "class Solution \x7b\n    int one() \x7b\n        return 1;\n    \x7d\n\x7d\n"

/-- A Java solution without a class. -/
def oneMethod : String := "int one() \x7b return 1; \x7d"

theorem exists_one_plan : ∃ plan,
    Plan.build .java oneProblem [oneTest] .standard Settings.defaultTolerance = .ok plan := by
  cases h : Plan.build .java oneProblem [oneTest] .standard Settings.defaultTolerance with
  | ok plan => exact ⟨plan, rfl⟩
  | error e =>
    have hok : (Plan.build .java oneProblem [oneTest] .standard
      Settings.defaultTolerance).isOk = true := by decide
    rw [h] at hok
    cases hok

theorem maps_lines_of_class :
    ∃ prog, generate .standard Settings.defaultTolerance .java oneClass oneProblem [oneTest] =
      .ok prog ∧ '\r' ∉ oneClass.toList ∧ prog.MapsLines oneClass := by
  obtain ⟨plan, hplan⟩ := exists_one_plan
  have h := generate_of_build (show Text.isBlankText oneClass = false by decide) hplan
  have hr : '\r' ∉ oneClass.toList := by decide
  refine ⟨_, h, hr, (maps_lines_iff h hr).mpr fun _ => ?_⟩
  exact ⟨by decide, by decide, by decide, by decide,
    by decide⟩

/-- The line of the solution is that of the class that is put around the code. -/
theorem not_maps_lines_of_method :
    ∃ prog, generate .standard Settings.defaultTolerance .java oneMethod oneProblem [oneTest] =
      .ok prog ∧ '\r' ∉ oneMethod.toList ∧ ¬ prog.MapsLines oneMethod := by
  obtain ⟨plan, hplan⟩ := exists_one_plan
  have h := generate_of_build (show Text.isBlankText oneMethod = false by decide) hplan
  have hr : '\r' ∉ oneMethod.toList := by decide
  refine ⟨_, h, hr, fun hmaps => ?_⟩
  have hline : ∃ c ∈ oneMethod.toList, c ≠ '\n' := ⟨'i', by decide, by decide⟩
  have hverbatim := verbatim_of_maps_lines (Plan.target_of_build hplan) hline hr hmaps
  exact absurd hverbatim.declares (by decide)

end Program

end CodeJudge
