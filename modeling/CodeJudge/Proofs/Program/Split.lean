import CodeJudge.Proofs.Program.Frame
import CodeJudge.Proofs.Program.Skeleton
import CodeJudge.Proofs.Solution.Java
/-!
What becomes of the lines of a Java solution. Each one is an import and moved into the header, names
the package and dropped, or kept; what is kept is the body, in a class if it declares none, and
every import that is moved stands in the header once.
-/
namespace CodeJudge

open Solution (Declares declares_class_iff)
open Text (Scanner)

namespace JavaSource

/-- Lines of a solution, the imports among them as they are moved, and the lines that are kept. -/
inductive Sorted : List String → List String → List String → Prop
  | nil : Sorted [] [] []
  | moved {l : String} {ls imports kept : List String} (himport : IsImport (Text.trimmed l.toList))
    (hrest : Sorted ls imports kept) : Sorted (l :: ls) (Text.trim l :: imports) kept
  | dropped {l : String} {ls imports kept : List String}
    (himport : ¬ IsImport (Text.trimmed l.toList)) (hpackage : IsPackage (Text.trimmed l.toList))
    (hrest : Sorted ls imports kept) : Sorted (l :: ls) imports kept
  | kept {l : String} {ls imports kept : List String}
    (himport : ¬ IsImport (Text.trimmed l.toList)) (hpackage : ¬ IsPackage (Text.trimmed l.toList))
    (hrest : Sorted ls imports kept) : Sorted (l :: ls) imports (l :: kept)

/-- Only one way to sort the lines is right. -/
theorem sorted_iff {ls imports kept : List String} : Sorted ls imports kept ↔
    imports = (ls.filter importLine.occurs).map Text.trim ∧
      kept = ls.filter fun l => !importLine.occurs l && !packageLine.occurs l := by
  constructor
  · intro h
    induction h with
    | nil => exact ⟨rfl, rfl⟩
    | moved himport _ ih =>
      rw [← import_line_iff] at himport
      simp [himport, ih.1, ih.2]
    | dropped himport hpackage _ ih =>
      rw [← import_line_iff] at himport
      rw [← package_line_iff] at hpackage
      simp [himport, hpackage, ih.1, ih.2]
    | kept himport hpackage _ ih =>
      rw [← import_line_iff] at himport
      rw [← package_line_iff] at hpackage
      simp [himport, hpackage, ih.1, ih.2]
  · rintro ⟨rfl, rfl⟩
    induction ls with
    | nil => exact .nil
    | cons l ls ih =>
      cases himport : importLine.occurs l with
      | true =>
        simpa [himport] using ih.moved ((import_line_iff l).mp himport)
      | false =>
        have hnot := mt (import_line_iff l).mpr (Bool.eq_false_iff.mp himport)
        cases hpackage : packageLine.occurs l with
        | true => simpa [himport, hpackage] using ih.dropped hnot ((package_line_iff l).mp hpackage)
        | false =>
          have hkept := mt (package_line_iff l).mpr (Bool.eq_false_iff.mp hpackage)
          simpa [himport, hpackage] using ih.kept hnot hkept

theorem sorted_lines (code : String) :
    Sorted (Text.linesOf code) (ofCode code).imports (keptLines code) :=
  sorted_iff.mpr ⟨rfl, rfl⟩

/-- Without a public class the body is what is kept, between line feeds that are left out. -/
theorem body_of_no_public {code : String}
    (h : ¬ HasPublicClass (Text.joinLines (keptLines code)).toList) :
    let inner := Text.trimNewlines (Text.joinLines (keptLines code))
    (ofCode code).body =
      if Solution.declaresClass (Text.joinLines (keptLines code)) then inner
      else "class Solution \x7b\n" ++ inner ++ "\n\x7d" := by
  rw [← public_class_occurs_iff, Bool.not_eq_true] at h
  rw [body_eq, hide_class_of_not_occurs h, enclose]

theorem declares_shell (s : String) : Declares ("class Solution \x7b\n" ++ s).toList := by
  have hw : Solution.IsDeclaration "class Solution".toList :=
    ⟨_, " ".toList, rfl, .inl rfl, by decide, List.forall_mem_singleton.mpr (by decide)⟩
  refine ⟨[], _, " \x7b\n".toList ++ s.toList, ?_, hw, rfl, rfl⟩
  simp

/-- The body declares the class. -/
theorem declares_body (code : String) : Declares (ofCode code).body.toList := by
  rw [body_eq, enclose]
  split_ifs with h
  · exact (Solution.declares_trim_newlines_iff _).mpr (declares_class_iff.mp h)
  · rw [String.append_assoc]
    exact declares_shell _

end JavaSource

namespace Plan

/-- A scanner that finds nothing in node structures finds in the section what is in front of
them. -/
theorem scan_section_rows {α : Type} (k : Scanner α) (p : Plan) (common : String)
    {list tree : List String} (hlist : ∀ row ∈ list, k.scan row.toList = [])
    (htree : ∀ row ∈ tree, k.scan row.toList = []) :
    k.scan (p.sectionText common (Template.rows list) (Template.rows tree)).toList =
      k.scan common.toList := by
  rw [scan_section_text, scan_piece_rows, scan_piece_rows, List.flatMap_eq_nil_iff.mpr hlist,
    List.flatMap_eq_nil_iff.mpr htree, ite_self, ite_self, List.append_nil, List.append_nil]

/-- A row that begins with `import` is no row of a node structure. -/
theorem scan_header_import {p : Plan} (hp : p.target = .java) {t : List Char} (ht : t ≠ [])
    (hbegins : "import".toList <+: t) (code : String) :
    (Scanner.equalTo t ht).scan (p.header code).toList =
      (Scanner.equalTo t ht).scan (javaImports (JavaSource.ofCode code).imports).toList := by
  have hother {rows : List String} (hrows : ∀ row ∈ rows,
      '\n' ∉ row.toList ∧ ¬ "import".toList <+: Text.trimmed row.toList) :
      ∀ row ∈ rows, (Scanner.equalTo t ht).scan row.toList = [] := by
    intro row hrow
    obtain ⟨hn, hnot⟩ := hrows row hrow
    rw [Scanner.scan_equal_to_line hn, if_neg]
    rintro rfl
    exact hnot hbegins
  rw [header, Scanner.scan_tidied, headerText, hp]
  exact scan_section_rows _ p _ (hother (by decide)) (hother (by decide))

/-- What a solution imports stands in the header once. -/
theorem count_header_import {p : Plan} (hp : p.target = .java) {code line : String}
    (h : line ∈ (JavaSource.ofCode code).imports) :
    ((Text.linesOf (p.header code)).map Text.trim).count line = 1 := by
  obtain ⟨rows, heq, hnodup, hrows, hmem⟩ := exists_java_imports code
  obtain ⟨-, hbegins⟩ := hrows line (hmem line h)
  have hne : line.toList ≠ [] := by
    intro hnil
    rw [hnil] at hbegins
    exact absurd hbegins (by decide)
  -- what tidying does to the lines is known of scanners only, so one is made to count
  have hcount (s : String) : ((Text.linesOf s).map Text.trim).count line =
      ((Scanner.equalTo line.toList hne).scan s.toList).length := by
    have hline := List.count_map_of_injective ((Text.lines s.toList).map Text.trimmed)
      String.ofList (fun _ _ => String.ofList_inj.mp) line.toList
    rw [String.ofList_toList] at hline
    rw [Scanner.length_scan_equal_to, Text.map_trim_lines_of, hline]
  rw [hcount, scan_header_import hp hne hbegins, ← hcount, heq,
    Template.trim_ended_lines fun row hrow => (hrows row hrow).1]
  exact List.count_eq_one_of_mem hnodup (hmem line h)

end Plan

namespace JavaSource

/-- The lines are sorted into imports that are moved, package lines that are dropped and lines that
are kept, in order. Unless a public class is hidden the body is what is kept, line feeds at the ends
apart, inside a class exactly if it declares none; so the body declares one. Every import that is
moved stands in the header of a program once. -/
theorem lines_accounted_for (code : String) : ∃ kept,
    Sorted (Text.linesOf code) (ofCode code).imports kept ∧
    (¬ HasPublicClass (Text.joinLines kept).toList →
      (Declares (Text.joinLines kept).toList →
        (ofCode code).body = Text.trimNewlines (Text.joinLines kept)) ∧
      (¬ Declares (Text.joinLines kept).toList →
        (ofCode code).body =
          "class Solution \x7b\n" ++ Text.trimNewlines (Text.joinLines kept) ++ "\n\x7d")) ∧
    Declares (ofCode code).body.toList ∧
    ∀ r tolerance problem tests prog,
      Program.generate r tolerance .java code problem tests = .ok prog →
        ∀ line ∈ (ofCode code).imports,
          ((Text.linesOf prog.header).map Text.trim).count line = 1 := by
  refine ⟨keptLines code, sorted_lines code, fun hpublic => ?_, declares_body code, ?_⟩
  · rw [body_of_no_public hpublic, ← declares_class_iff]
    exact ⟨fun h => if_pos h, fun h => if_neg h⟩
  · intro r tolerance problem tests prog hprog line hline
    obtain ⟨-, plan, hbuild, rfl⟩ := Program.exists_build hprog
    exact Plan.count_header_import (Plan.target_of_build hbuild) hline

/-- An import that the code repeats, under a package, in front of a method without a class. -/
theorem repeated_import_accounted_for :
    let code :=
      "package judge;\nimport java.util.List;\n import java.util.List;\nint one() \x7b\x7d\n"
    let line := "import java.util.List;"
    ∃ prog, Program.generate .standard Settings.defaultTolerance .java code (Problem.named "one")
        [] = .ok prog ∧
      (ofCode code).imports = [line, line] ∧
      (ofCode code).body = "class Solution \x7b\nint one() \x7b\x7d\n\x7d" ∧
      Declares (ofCode code).body.toList ∧
      ((Text.linesOf prog.header).map Text.trim).count line = 1 := by
  intro code line
  obtain ⟨-, -, -, hdeclares, hheader⟩ := lines_accounted_for code
  obtain ⟨prog, hprog⟩ := Program.exists_generate Settings.defaultTolerance
    (show Text.isBlankText code = false by decide)
    (Plan.plannable_standard (t := .java) (p := Problem.named "one") rfl (.inr rfl)
      (List.forall_mem_nil _))
  have himports : (ofCode code).imports = [line, line] := by decide
  have hline : line ∈ (ofCode code).imports := by
    rw [himports]
    exact List.mem_cons_self
  exact ⟨prog, hprog, himports, by decide, hdeclares,
    hheader _ _ _ _ prog hprog line hline⟩

end JavaSource

end CodeJudge
