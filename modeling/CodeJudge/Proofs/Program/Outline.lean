import CodeJudge.Proofs.Driver.Cpp
import CodeJudge.Proofs.Driver.Java
import CodeJudge.Proofs.Program.Skeleton
/-!
Outlines of generated programs with typed literals. Records are told apart by their places, so the
driver has to declare the identifier and the expected output of each test once and in order,
whatever texts and values pass through literals, indentation and templates on the way.
-/
namespace CodeJudge.Program

/-- The driver of a C++ program declares, for each test in order, its identifier and its expected
output with literals that are read as their JSON texts. The driver of a Java program does so in a
method for each test, and its main method collects the records of these methods in order. No other
line looks like one of these lines. The name of the function has no line feed, as no identifier
has. -/
theorem driver_outline {problem : Problem} (hname : '\n' ∉ problem.functionName.toList)
    (tolerance : Binary64) (code : String) (tests : List TestCase) :
    (∀ prog, generate .standard tolerance .cpp code problem tests = .ok prog →
      cppMarks.scan prog.driver.toList =
        tests.flatMap fun t => [.caseId (some t.idText), .expected (some t.outputText)]) ∧
    (∀ prog, generate .standard tolerance .java code problem tests = .ok prog →
      javaMarks.scan prog.driver.toList =
        ((numberedFrom 0 tests).flatMap fun (i, t) =>
          [.opens ("private static String runCase" ++ toString i ++ "() \x7b"),
            .caseId (some (Literal.Java.textUnits t.idText)),
            .expected (some (Literal.Java.textUnits t.outputText)), .closes]) ++
          (.opens "public static void main(String[] args) \x7b" ::
            (numberedFrom 0 tests).map fun (i, _) =>
              .adds ("runCase" ++ toString i ++ "());")) ++ [.closes]) := by
  constructor
  · intro prog hprog
    obtain ⟨-, plan, hbuild, rfl⟩ := exists_build hprog
    have hsingle := Plan.is_single_line_of_build hbuild hname
    have htarget := Plan.target_of_build hbuild
    rw [Plan.driver_of_cpp htarget]
    exact Plan.scan_cpp_driver hsingle htarget code tests
  · intro prog hprog
    obtain ⟨-, plan, hbuild, rfl⟩ := exists_build hprog
    have hsingle := Plan.is_single_line_of_build hbuild hname
    have htarget := Plan.target_of_build hbuild
    rw [Plan.driver_of_java htarget]
    exact Plan.scan_java_driver hsingle htarget tests

/-- An identifier that looks like a declaration and an output with a quote. -/
theorem driver_outline_of_quoted_test :
    let problem := Problem.named "answer"
    let tests : List TestCase := [⟨.string "\";\nconst string _caseId = ", [], .nat 42⟩]
    ∃ cpp java, '\n' ∉ problem.functionName.toList ∧
      generate .standard Settings.defaultTolerance .cpp "class Solution \x7b \x7d;" problem tests =
        .ok cpp ∧
      cppMarks.scan cpp.driver.toList =
        [.caseId (some "\"\\\";\\nconst string _caseId = \""), .expected (some "42")] ∧
      generate .standard Settings.defaultTolerance .java "class Solution \x7b \x7d" problem tests =
        .ok java ∧
      javaMarks.scan java.driver.toList =
        [.opens "private static String runCase0() \x7b",
          .caseId (some (Literal.Java.textUnits "\"\\\";\\nconst string _caseId = \"")),
          .expected (some (Literal.Java.textUnits "42")), .closes,
          .opens "public static void main(String[] args) \x7b", .adds "runCase0());", .closes] := by
  intro problem tests
  have hname : '\n' ∉ problem.functionName.toList := by decide
  have hresolves : Formats.ofProblem problem = .ok ⟨[], .ofBaseType .primitive⟩ := rfl
  have hcpp : Plan.Plannable .cpp problem tests .standard _ :=
    ⟨hresolves, by decide, List.forall_mem_singleton.mpr rfl, List.forall_mem_nil _,
      ⟨_, rfl, by decide⟩, ⟨_, rfl, by decide⟩⟩
  have hjava : Plan.Plannable .java problem tests .standard _ :=
    ⟨hresolves, by decide, List.forall_mem_singleton.mpr rfl, List.forall_mem_nil _,
      ⟨_, rfl, by decide⟩, ⟨_, rfl, by decide⟩⟩
  obtain ⟨cpp, hgenerated⟩ := exists_generate Settings.defaultTolerance
    (show Text.isBlankText "class Solution \x7b \x7d;" = false by decide) hcpp
  obtain ⟨java, hjavaGenerated⟩ := exists_generate Settings.defaultTolerance
    (show Text.isBlankText "class Solution \x7b \x7d" = false by decide) hjava
  refine ⟨cpp, java, hname, hgenerated, ?_, hjavaGenerated, ?_⟩
  · rw [(driver_outline hname _ _ tests).1 cpp hgenerated]
    rfl
  · rw [(driver_outline hname _ _ tests).2 java hjavaGenerated]
    rfl

end CodeJudge.Program
