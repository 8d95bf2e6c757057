import CodeJudge.Proofs.Json.Integers
import CodeJudge.Proofs.Literal.Printable
import CodeJudge.Proofs.Literal.Python
import CodeJudge.Proofs.Program.Skeleton
import CodeJudge.Proofs.Text.Scan
/-!
Test data in the programs that read their tests at run time. A JavaScript program has the JSON text
of the tests as it is, and a Python program has a string literal of that text. Both are read as the
tests, in order.
-/
namespace CodeJudge

open Json (Printable readValue)

namespace TestCase

/-- The values of a test. -/
def values (t : TestCase) : List Json.Value := t.id :: t.output :: t.input

/-- The values of a test are well-formed and hold no floating-point number. -/
def Exact (t : TestCase) : Prop := ∀ v ∈ t.values, v.WellFormed ∧ v.FloatFree

theorem Exact.survives {t : TestCase} (h : t.Exact) : t.toJson.Survives := by
  have hvalue : ∀ v ∈ t.values, v.Survives :=
    fun v hv => Json.Value.survives_of_float_free (h v hv).1 (h v hv).2
  obtain ⟨hid, hrest⟩ := List.forall_mem_cons.mp hvalue
  obtain ⟨houtput, hinput⟩ := List.forall_mem_cons.mp hrest
  exact ⟨hid, (Json.Value.survives_items_iff t.input).mpr hinput, houtput, trivial⟩

theorem Exact.well_formed {t : TestCase} (h : t.Exact) : t.toJson.WellFormed := by
  have hvalue : ∀ v ∈ t.values, v.WellFormed := fun v hv => (h v hv).1
  obtain ⟨hid, hrest⟩ := List.forall_mem_cons.mp hvalue
  obtain ⟨houtput, hinput⟩ := List.forall_mem_cons.mp hrest
  have hkeys : Json.Ascending
      [("id", t.id), ("input", .array t.input), ("output", t.output)] :=
    List.pairwise_map.mp
      (show ["id", "input", "output"].Pairwise (· < ·) by decide)
  exact ⟨hkeys, hid, (Json.Value.well_formed_items_iff t.input).mpr hinput, houtput, trivial⟩

/-- The inputs of a test stand in an array in an object. -/
theorem depth_to_json_le {t : TestCase} {levels : Nat} (h : ∀ v ∈ t.values, v.depth ≤ levels) :
    t.toJson.depth ≤ levels + 2 := by
  obtain ⟨hid, hrest⟩ := List.forall_mem_cons.mp h
  obtain ⟨houtput, hinput⟩ := List.forall_mem_cons.mp hrest
  have hitems := (Json.Value.depth_items_le_iff t.input levels).mpr hinput
  simp only [toJson, Json.Value.depth, Json.Value.depthMembers]
  omega

end TestCase

/-! The text of the tests. -/

section

variable {tests : List TestCase}

theorem survives_tests (h : ∀ t ∈ tests, t.Exact) :
    (Json.Value.array (tests.map TestCase.toJson)).Survives := by
  refine (Json.Value.survives_items_iff _).mpr ?_
  intro v hv
  obtain ⟨t, ht, rfl⟩ := List.mem_map.mp hv
  exact (h t ht).survives

theorem depth_tests_le {levels : Nat} (h : ∀ t ∈ tests, ∀ v ∈ t.values, v.depth ≤ levels) :
    (Json.Value.array (tests.map TestCase.toJson)).depth ≤ levels + 3 := by
  rw [Json.Value.depth, Nat.add_le_add_iff_right, Json.Value.depth_items_le_iff]
  intro v hv
  obtain ⟨t, ht, rfl⟩ := List.mem_map.mp hv
  exact TestCase.depth_to_json_le (h t ht)

/-- The text of the tests is read as an array of the tests in order, at as many levels as they
need. -/
theorem read_test_cases (h : ∀ t ∈ tests, t.Exact) {levels : Nat}
    (hdepth : ∀ t ∈ tests, ∀ v ∈ t.values, v.depth ≤ levels) :
    readValue (levels + 3) .whole (testCasesText tests).toList =
      some (.array (tests.map TestCase.toJson), []) := by
  have hread := Json.read_value_write (Json.Outline.whole_covers _) (survives_tests h)
    (levels + 3) Json.EndsNumber.nil
  rw [List.append_nil, if_pos (depth_tests_le hdepth)] at hread
  rw [testCasesText, Json.Value.toText, String.toList_ofList, hread]

theorem parse_test_cases (h : ∀ t ∈ tests, t.Exact)
    (hdepth : ∀ t ∈ tests, ∀ v ∈ t.values, v.depth + 3 ≤ Json.maxDepth) :
    Json.Value.parse? (testCasesText tests) = some (.array (tests.map TestCase.toJson)) := by
  have hlevels : (Json.Value.array (tests.map TestCase.toJson)).depth ≤ Json.maxDepth - 3 + 3 :=
    depth_tests_le fun t ht v hv => Nat.le_sub_of_add_le (hdepth t ht v hv)
  have hsorted : (Json.Value.array (tests.map TestCase.toJson)).WellFormed := by
    refine (Json.Value.well_formed_items_iff _).mpr ?_
    intro v hv
    obtain ⟨t, ht, rfl⟩ := List.mem_map.mp hv
    exact (h t ht).well_formed
  rw [Nat.sub_add_cancel (by decide)] at hlevels
  rw [testCasesText, Json.Value.parse_to_text (survives_tests h) hlevels,
    Json.Value.sorted_of_well_formed _ hsorted]

theorem printable_test_cases (h : ∀ t ∈ tests, t.Exact) :
    Printable (testCasesText tests).toList := by
  rw [testCasesText, Json.Value.toText, String.toList_ofList]
  exact Json.printable_write (survives_tests h)

end

/-! The first line of a driver. -/

/-- A line without control characters is a line of its own, also for who takes a carriage return
for a part of the end. -/
theorem Text.head_lines_of_printable {line : String} (h : Printable line.toList) (rest : String) :
    (linesOf (line ++ "\n" ++ rest)).head? = some line := by
  have hlines : lines (line.toList ++ ['\n']) = [line.toList] := by
    rcases lines_line_end h.not_newline with hl | ⟨m, hm, -⟩
    · exact hl
    · exact absurd (h '\r' (by rw [hm]; simp)) (by decide)
  rw [linesOf, to_list_two_lines, lines_append_newline, hlines]
  simp

namespace Plan

theorem loop_data_complete (p : Plan) (key : String) (v : Json.Value) (lead : String)
    (width : Nat) :
    ∀ name ∈ [key, "function_name", "build_args", "arg_list", "flatten"],
      ((Json.Value.object ((key, v) :: p.loopData lead width)).get? name).isSome = true := by
  intro name hname
  have hkeys : name ∈ ((key, v) :: p.loopData lead width).map (·.1) := hname
  obtain ⟨m, hm, rfl⟩ := List.mem_map.mp hkeys
  exact List.lookup_isSome_iff.mpr ⟨m, hm, BEq.rfl⟩

/-- The tests stand on the first line of a JavaScript driver as they are. -/
theorem first_line_javascript (p : Plan) {tests : List TestCase}
    (h : Printable (testCasesText tests).toList) :
    (Text.linesOf (p.javascriptDriver tests)).head? =
      some ("const TEST_CASES = " ++ testCasesText tests ++ ";") := by
  have hdriver : Template.Javascript.driver =
      Template.row [.text "const TEST_CASES = ", Template.hole "test_cases_json", .text ";"] ++
        Template.Javascript.driver.drop 4 := rfl
  obtain ⟨rest, hrest⟩ := Template.fill_first_row
    (p.loop_data_complete "test_cases_json" (.string (testCasesText tests)) "__" 2)
    List.lookup_cons_self "const TEST_CASES = " ";" (Template.Javascript.driver.drop 4)
    (by decide)
  have hprintable : Printable ("const TEST_CASES = " ++ testCasesText tests ++ ";").toList :=
    printable_text_append (printable_text_append (by decide) h) (by decide)
  rw [javascriptDriver, hdriver, hrest]
  exact Text.head_lines_of_printable hprintable rest

/-- The tests stand on the first line of a Python driver as a literal of their text. -/
theorem first_line_python (p : Plan) (tests : List TestCase) :
    ∃ argument, (Text.linesOf (p.pythonDriver tests)).head? =
        some ("TEST_CASES = json.loads(" ++ argument) ∧
      Literal.Python.readString? argument.toList =
        some ((testCasesText tests).toList, [')']) := by
  have hdriver : Template.Python.driver =
      Template.row [.text "TEST_CASES = json.loads(", Template.hole "test_cases_literal",
        .text ")"] ++ Template.Python.driver.drop 4 := rfl
  obtain ⟨rest, hrest⟩ := Template.fill_first_row
    (p.loop_data_complete "test_cases_literal"
      (.string (String.ofList (Json.writeString (testCasesText tests)))) "_" 4)
    List.lookup_cons_self "TEST_CASES = json.loads(" ")" (Template.Python.driver.drop 4)
    (by decide)
  refine ⟨String.ofList (Json.writeString (testCasesText tests)) ++ ")", ?_, ?_⟩
  · -- the line does not end inside the literal, whatever stands in the tests
    have hliteral : Printable (String.ofList (Json.writeString (testCasesText tests))).toList := by
      rw [String.toList_ofList]
      exact Json.printable_write_string _
    have hprintable : Printable ("TEST_CASES = json.loads(" ++
        String.ofList (Json.writeString (testCasesText tests)) ++ ")").toList :=
      printable_text_append (printable_text_append (by decide) hliteral) (by decide)
    rw [pythonDriver, hdriver, hrest, ← String.append_assoc]
    exact Text.head_lines_of_printable hprintable rest
  · rw [String.toList_append, String.toList_ofList]
    exact Literal.Python.read_string_write _ (by decide)

end Plan

namespace Program

/-- The driver of a JavaScript program has the JSON text of the tests on a line of its own, and the
driver of a Python program a string literal of that text. The text is read as the tests in order,
whatever strings and integers stand in them. -/
theorem drivers_hold_tests {r : Registry} (tolerance : Binary64) (code : String)
    (problem : Problem) {tests : List TestCase} (h : ∀ t ∈ tests, t.Exact) :
    (∀ levels, (∀ t ∈ tests, ∀ v ∈ t.values, v.depth ≤ levels) →
      readValue (levels + 3) .whole (testCasesText tests).toList =
        some (.array (tests.map TestCase.toJson), [])) ∧
    ((∀ t ∈ tests, ∀ v ∈ t.values, v.depth + 3 ≤ Json.maxDepth) →
      Json.Value.parse? (testCasesText tests) = some (.array (tests.map TestCase.toJson))) ∧
    (∀ prog, generate r tolerance .javascript code problem tests = .ok prog →
      (Text.linesOf prog.driver).head? =
        some ("const TEST_CASES = " ++ testCasesText tests ++ ";")) ∧
    (∀ prog, generate r tolerance .python code problem tests = .ok prog →
      ∃ argument, (Text.linesOf prog.driver).head? =
          some ("TEST_CASES = json.loads(" ++ argument) ∧
        Literal.Python.readString? argument.toList =
          some ((testCasesText tests).toList, [')'])) := by
  refine ⟨fun levels => read_test_cases h, parse_test_cases h, ?_, ?_⟩
  · intro prog hprog
    obtain ⟨-, plan, htarget, rfl⟩ := exists_plan hprog
    rw [Plan.driver_of_javascript htarget]
    exact plan.first_line_javascript (printable_test_cases h)
  · intro prog hprog
    obtain ⟨-, plan, htarget, rfl⟩ := exists_plan hprog
    rw [Plan.driver_of_python htarget]
    exact plan.first_line_python tests

/-- A test with quotes, a line feed, a control character, a character beyond the basic plane, an
object and the least and the greatest integer. -/
theorem drivers_hold_tests_of_odd_characters :
    let problem := (Problem.named "echo").withParam "words" "array<string>"
    let tests : List TestCase :=
      [⟨.string "say \"\\\n", [.array [.string "\x01", .string "𝄞"]],
        .object [("bounds", .array [.number (.int (-9223372036854775808)),
          .number (.int 18446744073709551615)])]⟩]
    ∃ script python,
      generate .standard Settings.defaultTolerance .javascript "const echo = x => x;" problem
        tests = .ok script ∧
      generate .standard Settings.defaultTolerance .python "echo = lambda x: x" problem tests =
        .ok python ∧
      (∀ t ∈ tests, t.Exact) ∧
      Json.Value.parse? (testCasesText tests) = some (.array (tests.map TestCase.toJson)) ∧
      (Text.linesOf script.driver).head? =
        some ("const TEST_CASES = " ++ testCasesText tests ++ ";") ∧
      ∃ argument, (Text.linesOf python.driver).head? =
          some ("TEST_CASES = json.loads(" ++ argument) ∧
        Literal.Python.readString? argument.toList =
          some ((testCasesText tests).toList, [')']) := by
  intro problem tests
  have hplannable (t : Target) : Plan.Plannable t problem tests .standard
      ⟨[⟨.array, some "string", "json_array", some 0, some "words", none⟩],
        .ofBaseType .primitive⟩ :=
    Plan.plannable_standard (by cbv) (.inr rfl) (List.forall_mem_singleton.mpr rfl)
  have hexact : ∀ t ∈ tests, t.Exact := by
    intro t ht
    obtain rfl := List.mem_singleton.mp ht
    simp [TestCase.Exact, TestCase.values, Json.Value.WellFormed, Json.Value.WellFormedItems,
      Json.Value.WellFormedMembers, Json.Value.FloatFree, Json.Value.FloatFreeItems,
      Json.Value.FloatFreeMembers, Json.Ascending, Json.Number.InRange]
  have hdepth : ∀ t ∈ tests, ∀ v ∈ t.values, v.depth + 3 ≤ Json.maxDepth := by
    intro t ht
    obtain rfl := List.mem_singleton.mp ht
    simp [TestCase.values, Json.Value.depth, Json.Value.depthItems, Json.Value.depthMembers,
      Json.maxDepth]
  obtain ⟨script, hscript⟩ := exists_generate Settings.defaultTolerance
    (show Text.isBlankText "const echo = x => x;" = false by decide) (hplannable .javascript)
  obtain ⟨python, hpython⟩ := exists_generate Settings.defaultTolerance
    (show Text.isBlankText "echo = lambda x: x" = false by decide) (hplannable .python)
  obtain ⟨-, hparse, hline, -⟩ := drivers_hold_tests Settings.defaultTolerance
    "const echo = x => x;" problem hexact
  obtain ⟨-, -, -, hargument⟩ := drivers_hold_tests Settings.defaultTolerance
    "echo = lambda x: x" problem hexact
  exact ⟨script, python, hscript, hpython, hexact, hparse hdepth, hline script hscript,
    hargument python hpython⟩

end Program

end CodeJudge
