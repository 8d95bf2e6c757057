import CodeJudge.Proofs.Program.Layout
import CodeJudge.Proofs.Program.Sections
/-!
Generated programs. The sections in front of a solution have lines that are not empty, whatever
the problem, and the driver of a Java program opens a class on its first line.
-/
namespace CodeJudge

namespace Plan

theorem is_section_tidied {c : Char} (hc : Text.isBlank c = false) {s : String}
    (h : c ∈ s.toList) : IsSection (Text.tidied s) := by
  refine Or.inr ⟨c, Text.mem_tidied hc h, ?_⟩
  rintro rfl
  exact absurd hc (by decide)

theorem mem_fill {t : Template} {data : Json.Value} {names : List String}
    (h : ∀ name ∈ names, (data.get? name).isSome = true) {s : String} {ns : List Template.Node}
    (ht : t = .text s :: ns) (hns : Template.allNameOnly names ns = true) {c : Char}
    (hc : c ∈ s.toList) : c ∈ (t.fill data).toList := by
  obtain ⟨rest, hrest⟩ := Template.fill_text h s ns hns
  rw [ht, hrest, String.toList_append]
  exact List.mem_append_left _ hc

theorem mem_rows {c : Char} {line : String} (h : c ∈ line.toList) (ls : List String) :
    c ∈ (String.join ((line :: ls).map (· ++ "\n"))).toList := by
  rw [List.map_cons, String.join_cons, String.toList_append, String.toList_append]
  exact List.mem_append_left _ (List.mem_append_left _ h)

theorem is_section_text {c : Char} (hc : Text.isBlank c = false) (p : Plan) {common : String}
    (h : c ∈ common.toList) (list tree : Template) :
    IsSection (Text.tidied (p.sectionText common list tree)) := by
  refine is_section_tidied hc ?_
  rw [sectionText, String.intercalate_cons_of_ne_nil (by simp), String.toList_append,
    String.toList_append]
  exact List.mem_append_left _ (List.mem_append_left _ h)

theorem mem_java_imports {c : Char} {done : String} (h : c ∈ done.toList) (imports : List String) :
    c ∈ (imports.foldl (fun done line =>
      if (Text.linesOf done).any fun l => Text.trim l == line then done
      else done ++ line ++ "\n") done).toList := by
  induction imports generalizing done with
  | nil => exact h
  | cons line imports ih =>
    rw [List.foldl_cons]
    split_ifs
    · exact ih h
    · refine ih ?_
      rw [String.toList_append, String.toList_append]
      exact List.mem_append_left _ (List.mem_append_left _ h)

/-- The section of imports and node structures of a generated program. -/
theorem is_section_header (p : Plan) (code : String) : IsSection (p.header code) := by
  have hnone : ∀ name ∈ ([] : List String), ((Json.Value.object []).get? name).isSome = true := by
    simp
  rw [header, headerText]
  -- each prelude begins with a line of text
  cases p.target with
  | python =>
    have hc := mem_fill (t := Template.Python.prelude) (c := 'i') hnone rfl rfl
      (mem_rows (by decide) _)
    exact is_section_text (by decide) p hc _ _
  | javascript =>
    have hc := mem_fill (t := Template.Javascript.prelude) (c := 'c') hnone rfl rfl
      (mem_rows (by decide) _)
    exact is_section_text (by decide) p hc _ _
  | cpp =>
    have hc := mem_fill (t := Template.Cpp.prelude) (c := 'i') hnone rfl rfl
      (mem_rows (by decide) _)
    exact is_section_text (by decide) p hc _ _
  | java =>
    have hc := mem_fill (t := Template.Java.prelude) (c := 'i') hnone rfl rfl
      (mem_rows (by decide) _)
    exact is_section_text (by decide) p (mem_java_imports hc _) _ _

/-- The section of routines of a generated program. -/
theorem is_section_definitions (p : Plan) : IsSection p.definitions := by
  have hdata : ∀ name ∈ ["float_tolerance", "needs_linked_list", "needs_tree"],
      (p.helperData.get? name).isSome = true := by
    simp [helperData, Json.Value.get?, List.lookup]
  rw [definitions, definitionsText]
  cases p.target with
  | python =>
    have hc := mem_fill (t := Template.Python.commonHelpers) (c := '_') hdata rfl
      (by decide) (by decide)
    exact is_section_text (by decide) p hc _ _
  | javascript =>
    have hc := mem_fill (t := Template.Javascript.commonHelpers) (c := 'c') hdata rfl
      (by decide) (by decide)
    exact is_section_text (by decide) p hc _ _
  | cpp =>
    have hc := mem_fill (t := Template.Cpp.commonHelpers) (c := 'c') hdata rfl
      (by decide) (by decide)
    exact is_section_text (by decide) p hc _ _
  | java =>
    have hc := mem_fill (t := Template.Java.commonHelpers) (c := 'f') hdata rfl
      (by decide) (mem_rows (by decide) _)
    exact is_section_tidied (by decide) hc

/-- A Java driver begins with the line that opens its class. -/
theorem java_driver_head (p : Plan) (tests : List TestCase) :
    ∃ rest, (p.javaDriver tests).toList = "public class Main \x7b".toList ++ rest := by
  rw [javaDriver]
  generalize Text.indent (String.intercalate "\n\n" _) 4 = cases
  generalize Text.indent (Text.joinLines _) 8 = calls
  have hdata : ∀ name ∈ ["cases", "calls"],
      ((Json.Value.object [("cases", .string cases), ("calls", .string calls)]).get? name).isSome =
        true := by
    simp [Json.Value.get?, List.lookup]
  have hrows : (String.join (["public class Main \x7b"].map (· ++ "\n"))).toList =
      "public class Main \x7b".toList ++ ['\n'] := by decide
  obtain ⟨rest, hrest⟩ := Template.fill_text hdata _ Template.Java.driver.tail (by decide)
  refine ⟨'\n' :: rest.toList, ?_⟩
  have hsplit : Template.Java.driver =
      .text (String.join (["public class Main \x7b"].map (· ++ "\n"))) ::
        Template.Java.driver.tail := rfl
  rw [hsplit, hrest, String.toList_append, hrows]
  simp

theorem target_of_build {t : Target} {problem : Problem} {tests : List TestCase} {r : Registry}
    {tolerance : Binary64} {p : Plan} (h : build t problem tests r tolerance = .ok p) :
    p.target = t := by
  rw [build] at h
  split at h
  · cases h
  · split at h
    · cases h
    · split at h
      · cases h
      · split at h
        · cases h
        · cases h
          rfl

/-! The parts of a program that depend on the target. -/

theorem solution_of_java {p : Plan} (h : p.target = .java) (code : String)
    (tests : List TestCase) : (p.assembled code tests).solution = (JavaSource.ofCode code).body :=
  if_pos (by simp [h])

theorem solution_of_not_java {p : Plan} (h : p.target ≠ .java) (code : String)
    (tests : List TestCase) : (p.assembled code tests).solution = code :=
  if_neg (by simpa using h)

theorem driver_of_program (p : Plan) (code : String) (tests : List TestCase) :
    (p.assembled code tests).driver = p.driver code tests := rfl

theorem driver_of_java {p : Plan} (h : p.target = .java) (code : String)
    (tests : List TestCase) : (p.assembled code tests).driver = p.javaDriver tests := by
  rw [driver_of_program, driver, h]

theorem driver_of_cpp {p : Plan} (h : p.target = .cpp) (code : String)
    (tests : List TestCase) : (p.assembled code tests).driver = p.cppDriver code tests := by
  rw [driver_of_program, driver, h]

theorem driver_of_python {p : Plan} (h : p.target = .python) (code : String)
    (tests : List TestCase) : (p.assembled code tests).driver = p.pythonDriver tests := by
  rw [driver_of_program, driver, h]

theorem driver_of_javascript {p : Plan} (h : p.target = .javascript) (code : String)
    (tests : List TestCase) : (p.assembled code tests).driver = p.javascriptDriver tests := by
  rw [driver_of_program, driver, h]

end Plan

/-- Code that is not blank gives a program if there is a plan. -/
theorem Program.generate_of_build {r : Registry} {tolerance : Binary64} {t : Target} {code : String}
    {problem : Problem} {tests : List TestCase} {p : Plan} (hcode : Text.isBlankText code = false)
    (h : Plan.build t problem tests r tolerance = .ok p) :
    generate r tolerance t code problem tests = .ok (p.assembled code tests) := by
  rw [generate, hcode, if_neg Bool.false_ne_true, h]
  dsimp only
  rw [p.program_eq]
  rfl

/-- A program is generated from a plan, and never from blank code. -/
theorem Program.exists_build {r : Registry} {tolerance : Binary64} {t : Target} {code : String}
    {problem : Problem} {tests : List TestCase} {prog : Program}
    (h : generate r tolerance t code problem tests = .ok prog) :
    Text.isBlankText code = false ∧ ∃ p : Plan,
      Plan.build t problem tests r tolerance = .ok p ∧ prog = p.assembled code tests := by
  rw [generate] at h
  split at h
  · cases h
  · rename_i hblank
    split at h
    · cases h
    · rename_i p hbuild
      rw [p.program_eq] at h
      exact ⟨Bool.eq_false_iff.mpr hblank, p, hbuild, (Except.ok.inj h).symm⟩

theorem Program.exists_plan {r : Registry} {tolerance : Binary64} {t : Target} {code : String}
    {problem : Problem} {tests : List TestCase} {prog : Program}
    (h : generate r tolerance t code problem tests = .ok prog) :
    Text.isBlankText code = false ∧ ∃ p : Plan, p.target = t ∧ prog = p.assembled code tests := by
  obtain ⟨hblank, p, hbuild, hprog⟩ := exists_build h
  exact ⟨hblank, p, Plan.target_of_build hbuild, hprog⟩

end CodeJudge
