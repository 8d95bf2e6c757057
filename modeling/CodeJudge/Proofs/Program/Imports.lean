import CodeJudge.Program.Generate
import CodeJudge.Proofs.Solution.Import
import CodeJudge.Proofs.Template.Render
/-!
Import lines of a Java program. They are rows that are trimmed, and a row of the solution is
appended only if it is none of those so far.
-/
namespace CodeJudge

/-- A line without its end and without white space at either end. -/
structure Text.IsRow (l : String) : Prop where
  newline_free : '\n' ∉ l.toList
  trimmed : Text.trim l = l

namespace Template

theorem fill_rows (ls : List String) (data : Json.Value) :
    (rows ls).fill data = endedLines ls := by
  rw [fill, render, render_all_rows]
  rfl

theorem ended_lines_concat (rows : List String) (l : String) :
    endedLines rows ++ l ++ "\n" = endedLines (rows ++ [l]) := by
  rw [ended_lines_append, ended_lines_cons, String.append_assoc]
  simp [endedLines]

/-- The rows of a text are read off its lines. -/
theorem trim_ended_lines {rows : List String} (h : ∀ row ∈ rows, Text.IsRow row) :
    (Text.linesOf (endedLines rows)).map Text.trim = rows := by
  induction rows with
  | nil => rfl
  | cons row rows ih =>
    obtain ⟨hrow, hrows⟩ := List.forall_mem_cons.mp h
    have hsplit : (endedLines (row :: rows)).toList =
        row.toList ++ '\n' :: (endedLines rows).toList := by
      simp [ended_lines_cons]
    -- a carriage return in front of the line end is white space like any other
    have hfirst : (Text.lines (row.toList ++ ['\n'])).map Text.trimmed =
        [Text.trimmed row.toList] := by
      rcases Text.lines_line_end hrow.newline_free with hl | ⟨m, hm, hl⟩
      · rw [hl]
        rfl
      · rw [hl, hm, Text.trimmed_return]
        rfl
    have hrest := ih hrows
    rw [Text.map_trim_lines_of] at hrest ⊢
    rw [hsplit, Text.lines_append_newline, List.map_append, List.map_append, hfirst, hrest]
    exact congrArg (· :: rows) hrow.trimmed

end Template

namespace JavaSource

theorem mem_imports {code line : String} (h : line ∈ (ofCode code).imports) :
    Text.IsRow line ∧ "import".toList <+: line.toList := by
  obtain ⟨l, hl, rfl⟩ := List.mem_map.mp h
  obtain ⟨hl, himport⟩ := List.mem_filter.mp hl
  obtain ⟨gap, name, star, space, heq, -⟩ := (import_line_iff l).mp himport
  have htrim : (Text.trim l).toList = Text.trimmed l.toList := by
    rw [Text.trim, String.toList_ofList]
  refine ⟨⟨?_, ?_⟩, ?_⟩
  · rw [htrim]
    exact fun hmem => Text.newline_not_mem_lines_of hl (Text.mem_of_mem_drop_both_while hmem)
  · rw [Text.trim, htrim, Text.trimmed_trimmed, Text.trim]
  · rw [htrim, heq]
    exact List.prefix_append _ _

end JavaSource

namespace Plan

open Template (endedLines)

/-- The rows that a Java program begins with. -/
def importRows : List String :=
  ["import java.lang.reflect.Array;", "import java.util.*;", "import java.util.function.*;",
    "import java.util.stream.*;"]

theorem mem_import_rows {row : String} (h : row ∈ importRows) :
    Text.IsRow row ∧ "import".toList <+: row.toList := by
  have hall : ∀ row ∈ importRows,
      ('\n' ∉ row.toList ∧ Text.trim row = row) ∧ "import".toList <+: row.toList := by
    decide
  obtain ⟨⟨hn, htrim⟩, hbegins⟩ := hall row h
  exact ⟨⟨hn, htrim⟩, hbegins⟩

/-- A text of rows gets the lines that are not among them, each once. -/
theorem exists_appended_rows {imports : List String} (h : ∀ line ∈ imports, Text.IsRow line)
    (rows : List String) (hrows : ∀ row ∈ rows, Text.IsRow row) (hnodup : rows.Nodup) :
    ∃ more, imports.foldl (fun done line =>
      if (Text.linesOf done).any fun l => Text.trim l == line then done
      else done ++ line ++ "\n") (endedLines rows) = endedLines more ∧
      more.Nodup ∧ ∀ line, line ∈ more ↔ line ∈ rows ∨ line ∈ imports := by
  -- the text so far always is one of rows, so the rows can be read off it again
  induction imports generalizing rows with
  | nil => exact ⟨rows, rfl, hnodup, by simp⟩
  | cons line imports ih =>
    obtain ⟨hline, himports⟩ := List.forall_mem_cons.mp h
    have hthere : ((Text.linesOf (endedLines rows)).any fun l => Text.trim l == line) = true ↔
        line ∈ rows := by
      conv_rhs => rw [← Template.trim_ended_lines hrows]
      simp
    rw [List.foldl_cons]
    split_ifs with hany
    · obtain ⟨more, heq, hmore, hmem⟩ := ih himports rows hrows hnodup
      refine ⟨more, heq, hmore, fun l => ?_⟩
      rw [hmem, List.mem_cons]
      constructor
      · exact Or.imp_right .inr
      · rintro (hl | rfl | hl)
        · exact .inl hl
        · exact .inl (hthere.mp hany)
        · exact .inr hl
    · have hnew : (rows ++ [line]).Nodup :=
        List.nodup_append'.mpr ⟨hnodup, List.nodup_singleton line,
          List.disjoint_singleton.mpr fun hmem => hany (hthere.mpr hmem)⟩
      obtain ⟨more, heq, hmore, hmem⟩ := ih himports (rows ++ [line])
        (List.forall_mem_append.mpr ⟨hrows, List.forall_mem_singleton.mpr hline⟩) hnew
      refine ⟨more, Template.ended_lines_concat rows line ▸ heq, hmore, fun l => ?_⟩
      rw [hmem, List.mem_append, List.mem_singleton, List.mem_cons, or_assoc]

/-- The import lines of a Java program are the common ones and those of the solution, each once. -/
theorem exists_java_imports (code : String) :
    ∃ rows, javaImports (JavaSource.ofCode code).imports = endedLines rows ∧ rows.Nodup ∧
      (∀ row ∈ rows, Text.IsRow row ∧ "import".toList <+: row.toList) ∧
      ∀ line ∈ (JavaSource.ofCode code).imports, line ∈ rows := by
  have hprelude : Template.Java.prelude.fill (.object []) = endedLines importRows :=
    Template.fill_rows importRows _
  have himports : ∀ line ∈ (JavaSource.ofCode code).imports, Text.IsRow line :=
    fun _ h => (JavaSource.mem_imports h).1
  obtain ⟨rows, heq, hnodup, hmem⟩ := exists_appended_rows himports importRows
    (fun _ h => (mem_import_rows h).1) (by decide)
  refine ⟨rows, ?_, hnodup, ?_, fun line h => (hmem line).mpr (.inr h)⟩
  · rw [javaImports, hprelude, heq]
  · intro row hrow
    exact ((hmem row).mp hrow).elim mem_import_rows JavaSource.mem_imports

end Plan

end CodeJudge
