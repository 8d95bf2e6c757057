import CodeJudge.Proofs.Literal.Printable
import CodeJudge.Proofs.Program.Imports
import CodeJudge.Proofs.Text.Tidy
/-!
Sections of generated programs. The templates of a section have few lines, no value that is put into
them ends a line, and the import lines of a solution are not white. So the white lines of a section
are always counted, and every plan gives a program.
-/
namespace CodeJudge

/-- The strings are those of the lists of characters. -/
inductive Text.Spelled : List (List Char) → List String → Prop where
  | nil : Spelled [] []
  | cons {cs : List Char} {css : List (List Char)} {ls : List String} (h : Spelled css ls) :
    Spelled (cs :: css) (String.ofList cs :: ls)

theorem Text.Spelled.mem_iff {css : List (List Char)} {ls : List String} (h : Text.Spelled css ls)
    {w : String} : w ∈ ls ↔ w.toList ∈ css := by
  induction h with
  | nil => simp
  | cons _ ih => rw [List.mem_cons, List.mem_cons, ih, ← String.toList_inj, String.toList_ofList]

namespace Template

/-- Whatever the parts are filled with, their text has at most `n` line feeds, as long as no member
of the value at hand brings one. -/
def BreaksAtMost (n : Nat) (ns : List Node) : Prop :=
  ∀ (root here : Json.Value) (s : String),
    (∀ name v, here.get? name = some v → '\n' ∉ (valueText v).toList) →
      renderAll root here ns = some s → s.toList.count '\n' ≤ n

namespace BreaksAtMost

variable {m n : Nat} {ns ms : List Node}

theorem mono (h : BreaksAtMost m ns) (hmn : m ≤ n) : BreaksAtMost n ns :=
  fun root here s hhere hs => (h root here s hhere hs).trans hmn

theorem nil : BreaksAtMost 0 [] := by
  rintro root here s - ⟨⟩
  exact le_rfl

theorem append (hns : BreaksAtMost m ns) (hms : BreaksAtMost n ms) :
    BreaksAtMost (m + n) (ns ++ ms) := by
  intro root here s hhere hs
  rw [render_all_append, Option.bind_eq_some_iff] at hs
  obtain ⟨a, ha, hs⟩ := hs
  obtain ⟨b, hb, rfl⟩ := Option.map_eq_some_iff.mp hs
  rw [String.toList_append, List.count_append]
  exact Nat.add_le_add (hns root here a hhere ha) (hms root here b hhere hb)

/-- A single part gives its own text. -/
theorem of_render {part : Node} (h : ∀ (root here : Json.Value) (s : String),
    (∀ name v, here.get? name = some v → '\n' ∉ (valueText v).toList) →
      part.render root here = some s → s.toList.count '\n' ≤ n) : BreaksAtMost n [part] := by
  intro root here s hhere hs
  refine h root here s hhere ?_
  simpa [renderAll] using hs

theorem text (s : String) : BreaksAtMost (s.toList.count '\n') [.text s] := by
  apply of_render
  rintro root here t - ht
  rw [render_text, Option.some.injEq] at ht
  rw [ht]

theorem hole (name : String) : BreaksAtMost 0 [hole name] := by
  apply of_render
  intro root here s hhere hs
  rw [render_hole] at hs
  obtain ⟨v, hv, rfl⟩ := Option.map_eq_some_iff.mp hs
  rw [List.count_eq_zero.mpr (hhere name v hv)]

theorem when {r : Reference} (h : BreaksAtMost n ns) : BreaksAtMost n [.when r ns []] := by
  apply of_render
  intro root here s hhere hs
  rw [Node.render] at hs
  cases hv : r.find? root here with
  | none =>
    rw [hv] at hs
    cases hs
  | some v =>
    rw [hv] at hs
    dsimp only at hs
    -- the branch that is not there counts as no line at all
    split_ifs at hs
    · exact h root here s hhere hs
    · exact (nil root here s hhere hs).trans (Nat.zero_le n)

theorem row {parts : List Node} (h : BreaksAtMost 0 parts) : BreaksAtMost 1 (row parts) :=
  h.append (text "\n")

/-- The characters of rows are found by unification with the strings, which is quicker than to
compute them. -/
theorem rows {css : List (List Char)} {ls : List String} (hspelled : Text.Spelled css ls)
    (h : (css.all fun cs => !cs.contains '\n') = true) : BreaksAtMost ls.length (rows ls) := by
  intro root here s hhere hs
  rw [render_all_rows, Option.some.injEq] at hs
  rw [← hs]
  clear hs
  induction hspelled with
  | nil => exact le_rfl
  | @cons cs css ls _ ih =>
    rw [List.all_cons, Bool.and_eq_true] at h
    have hcs : cs.count '\n' = 0 := List.count_eq_zero.mpr (by simpa using h.1)
    have hend : "\n".toList.count '\n' = 1 := rfl
    have hrest := ih h.2
    rw [List.map_cons, String.join_cons, String.toList_append, String.toList_append,
      String.toList_ofList, List.count_append, List.count_append, hcs, List.length_cons]
    omega

theorem fill {t : Template} (h : BreaksAtMost n t) {data : Json.Value}
    (hdata : ∀ name v, data.get? name = some v → '\n' ∉ (valueText v).toList) :
    (t.fill data).toList.count '\n' ≤ n := by
  rw [Template.fill, render]
  cases hs : renderAll data data t with
  | none => exact Nat.zero_le n
  | some s => exact h data data s hdata hs

end BreaksAtMost

end Template

namespace Plan

open Template (BreaksAtMost endedLines)
open Text (whiteEnds white_ends_append_le white_ends_le_count)

variable (p : Plan)

/-! The texts of sections. -/

theorem count_piece_le {n : Nat} {t : Template} (ht : BreaksAtMost n t) (b : BaseType) :
    (p.pieceFor b t).toList.count '\n' ≤ n := by
  rw [pieceFor]
  split_ifs
  · exact ht.fill fun name v hv => by cases hv
  · exact Nat.zero_le n

/-- More white lines than in the common piece come from the other two and the gaps between them. -/
theorem white_ends_section_le {n : Nat} {common : String} {list tree : Template}
    (hcommon : whiteEnds true common.toList ≤ n) (hlist : BreaksAtMost n list)
    (htree : BreaksAtMost n tree) :
    whiteEnds true (p.sectionText common list tree).toList ≤ 3 * n + 4 := by
  have hgap : (gap p.target).toList.count '\n' ≤ 2 := by
    rw [gap]
    split_ifs <;> decide
  have hlines := p.count_piece_le hlist .linkedList
  have hnodes := p.count_piece_le htree .tree
  let rest := (gap p.target).toList ++ ((p.pieceFor .linkedList list).toList ++
    ((gap p.target).toList ++ (p.pieceFor .tree tree).toList))
  have hsplit : (p.sectionText common list tree).toList = common.toList ++ rest := by
    simp [sectionText, rest, String.intercalate_cons_of_ne_nil]
  have hrest : rest.count '\n' ≤ 2 * n + 4 := by
    simp only [rest, List.count_append]
    omega
  calc
    whiteEnds true (p.sectionText common list tree).toList
        ≤ whiteEnds true common.toList + whiteEnds true rest := by
      rw [hsplit]
      exact white_ends_append_le true _ _
    _ ≤ n + (2 * n + 4) :=
      Nat.add_le_add hcommon ((white_ends_le_count true rest).trans hrest)
    _ = 3 * n + 4 := by omega

/-- The import lines of a Java program have no white line among them. -/
theorem white_ends_java_imports (code : String) :
    whiteEnds true (javaImports (JavaSource.ofCode code).imports).toList = 0 := by
  obtain ⟨rows, heq, -, hrows, -⟩ := exists_java_imports code
  rw [heq]
  clear heq
  induction rows with
  | nil => rfl
  | cons row rows ih =>
    obtain ⟨⟨⟨hn, -⟩, hbegins⟩, hrest⟩ := List.forall_mem_cons.mp hrows
    -- every row begins with the word import
    have hvisible : ∃ c ∈ row.toList, Text.isBlank c = false :=
      ⟨'i', hbegins.subset (by decide), by decide⟩
    have hsplit : (endedLines (row :: rows)).toList =
        row.toList ++ '\n' :: (endedLines rows).toList := by
      simp [Template.ended_lines_cons]
    rw [hsplit, Text.white_ends_visible hn hvisible]
    exact ih hrest

/-- The values of common routines do not end a line. -/
theorem newline_not_mem_helper_data (name : String) (v : Json.Value)
    (h : p.helperData.get? name = some v) : '\n' ∉ (Template.valueText v).toList := by
  have htolerance : '\n' ∉ p.toleranceText.toList := by
    rw [toleranceText, Binary64.toText, String.toList_ofList]
    intro hmem
    exact absurd (p.tolerance.printable_write_literal _ hmem) (by decide)
  have hflag (b : Bool) : '\n' ∉ (Template.valueText (.bool b)).toList := by
    cases b <;> decide
  have hmem : (name, v) ∈ [("float_tolerance", Json.Value.string p.toleranceText),
      ("needs_linked_list", .bool (p.uses .linkedList)), ("needs_tree", .bool (p.uses .tree))] := by
    obtain ⟨front, back, hsplit, -⟩ := List.lookup_eq_some_iff.mp h
    rw [hsplit]
    simp
  simp only [List.mem_cons, List.not_mem_nil, or_false, Prod.mk.injEq] at hmem
  rcases hmem with ⟨-, rfl⟩ | ⟨-, rfl⟩ | ⟨-, rfl⟩
  · exact htolerance
  · exact hflag _
  · exact hflag _

/-! The templates of sections. -/

/-- More lines than any of the templates has. -/
def maxLines : Nat := 1000

theorem breaks_rows {css : List (List Char)} {ls : List String} (hspelled : Text.Spelled css ls)
    (h : (css.all fun cs => !cs.contains '\n') = true ∧ ls.length ≤ maxLines) :
    BreaksAtMost maxLines (Template.rows ls) := (BreaksAtMost.rows hspelled h.1).mono h.2

/-- A line that names the tolerance. -/
theorem breaks_tolerance_row {front : String} {parts : List Template.Node}
    (hfront : front.toList.count '\n' = 0) (hparts : BreaksAtMost 0 parts) :
    BreaksAtMost 1 (Template.row (.text front :: Template.hole "float_tolerance" :: parts)) := by
  have h := (BreaksAtMost.text front).append ((BreaksAtMost.hole "float_tolerance").append hparts)
  rw [hfront] at h
  exact .row h

theorem white_ends_fill_le {t : Template} {data : Json.Value} (ht : BreaksAtMost maxLines t)
    (hdata : ∀ name v, data.get? name = some v → '\n' ∉ (Template.valueText v).toList) :
    whiteEnds true (t.fill data).toList ≤ maxLines :=
  (white_ends_le_count true _).trans (ht.fill hdata)

theorem white_ends_prelude_le {t : Template} (ht : BreaksAtMost maxLines t) :
    whiteEnds true (t.fill (.object [])).toList ≤ maxLines :=
  white_ends_fill_le ht fun name v hv => by cases hv

theorem white_ends_header_le (code : String) :
    whiteEnds true (p.headerText code).toList ≤ 3 * maxLines + 4 := by
  rw [headerText]
  cases p.target with
  | python | javascript | cpp =>
    refine p.white_ends_section_le (white_ends_prelude_le ?_) ?_ ?_
    all_goals exact breaks_rows (by repeat' constructor) (by decide)
  | java =>
    refine p.white_ends_section_le ((white_ends_java_imports code).trans_le (Nat.zero_le _)) ?_ ?_
    all_goals exact breaks_rows (by repeat' constructor) (by decide)

theorem breaks_python_helpers : BreaksAtMost maxLines Template.Python.commonHelpers :=
  have hrows := BreaksAtMost.rows (by repeat' constructor) (by decide)
  ((breaks_tolerance_row (by decide) .nil).append hrows).mono (by decide)

theorem breaks_javascript_helpers : BreaksAtMost maxLines Template.Javascript.commonHelpers :=
  have hrows := BreaksAtMost.rows (by repeat' constructor) (by decide)
  ((breaks_tolerance_row (by decide) (.text ";")).append hrows).mono (by decide)

theorem breaks_cpp_helpers : BreaksAtMost maxLines Template.Cpp.commonHelpers :=
  have hrows := BreaksAtMost.rows (by repeat' constructor) (by decide)
  ((breaks_tolerance_row (by decide) (.text ";")).append hrows).mono (by decide +kernel)

/-- Some rows of the common routines in Java are there only for lists or for trees. -/
theorem breaks_java_helpers : BreaksAtMost maxLines Template.Java.commonHelpers :=
  have hopening := BreaksAtMost.rows (by repeat' constructor) (by decide)
  have htolerance := breaks_tolerance_row (by decide) (.text ";")
  have hcommon := BreaksAtMost.rows (by repeat' constructor) (by decide)
  have hlist := BreaksAtMost.rows (by repeat' constructor) (by decide)
  have htree := BreaksAtMost.rows (by repeat' constructor) (by decide)
  have hclosing := BreaksAtMost.rows (by repeat' constructor) (by decide)
  (((((hopening.append htolerance).append hcommon).append hlist.when).append htree.when).append
    hclosing).mono (by decide +kernel)

theorem white_ends_definitions_le :
    whiteEnds true p.definitionsText.toList ≤ 3 * maxLines + 4 := by
  have hfill {t : Template} (ht : BreaksAtMost maxLines t) :
      whiteEnds true (t.fill p.helperData).toList ≤ maxLines :=
    white_ends_fill_le ht p.newline_not_mem_helper_data
  rw [definitionsText]
  cases p.target with
  | python =>
    refine p.white_ends_section_le (hfill breaks_python_helpers) ?_ ?_
    all_goals exact breaks_rows (by repeat' constructor) (by decide)
  | javascript =>
    refine p.white_ends_section_le (hfill breaks_javascript_helpers) ?_ ?_
    all_goals exact breaks_rows (by repeat' constructor) (by decide)
  | cpp =>
    refine p.white_ends_section_le (hfill breaks_cpp_helpers) ?_ ?_
    all_goals exact breaks_rows (by repeat' constructor) (by decide)
  | java => exact (hfill breaks_java_helpers).trans (by decide)

/-! The program of a plan. -/

/-- The section of imports and node structures. -/
def header (code : String) : String := Text.tidied (p.headerText code)

/-- The section of routines that the driver calls. -/
def definitions : String := Text.tidied p.definitionsText

/-- The program of a plan, put together from its sections. -/
def assembled (code : String) (tests : List TestCase) : Program where
  header := p.header code
  definitions := p.definitions
  solution := p.solutionText code
  driver := p.driver code tests
  skeleton := p.starter

/-- Every plan gives a program: no section has so many white lines that they are not counted. -/
theorem program_eq (code : String) (tests : List TestCase) :
    p.program code tests = .ok (p.assembled code tests) := by
  have hheader : Text.tidy (p.headerText code) = .ok (p.header code) :=
    Text.tidy_of_white_ends ((p.white_ends_header_le code).trans_lt (by decide))
  have hdefinitions : Text.tidy p.definitionsText = .ok p.definitions :=
    Text.tidy_of_white_ends (p.white_ends_definitions_le.trans_lt (by decide))
  rw [program, hheader, hdefinitions]
  rfl

end Plan

end CodeJudge
