import CodeJudge.Proofs.Solution.Declaration
import CodeJudge.Proofs.Text.Scan
import CodeJudge.Solution.Java
/-!
Lines of a solution that are moved or dropped. Whether a line is one of them depends on what it is
without white space at its ends.
-/
namespace CodeJudge.JavaSource

open Solution (IsGap)
open Text (isBlank isWord Pattern)

/-- A name of letters, digits, underscores and points. -/
def IsDotted (name : List Char) : Prop := name ≠ [] ∧ ∀ c ∈ name, isWord c = true ∨ c = '.'

/-- The words of a line that is moved. -/
def IsImport (t : List Char) : Prop :=
  ∃ gap name star space, t = "import".toList ++ (gap ++ (name ++ (star ++ (space ++ ";".toList)))) ∧
    IsGap gap ∧ IsDotted name ∧ (star = ".*".toList ∨ star = []) ∧ ∀ c ∈ space, isBlank c = true

/-- The words of a line that is dropped. -/
def IsPackage (t : List Char) : Prop :=
  ∃ gap name space, t = "package".toList ++ (gap ++ (name ++ (space ++ ";".toList))) ∧
    IsGap gap ∧ IsDotted name ∧ ∀ c ∈ space, isBlank c = true

theorem matches_dotted_name_iff {before : Option Char} {w rest : List Char}
    {held : List (Nat × List Char)} :
    dottedName.Matches before w rest held ↔ held = [] ∧ IsDotted w := by
  rw [dottedName, Pattern.matches_run_iff, IsDotted]
  simp [Text.CharSet.has]

/-- White space that is put around the text can be told from it. -/
structure HasVisibleEnds (cs : List Char) : Prop where
  begins : Text.beginsVisible cs = true
  ends : Text.endsVisible cs = true

namespace HasVisibleEnds

variable {cs ds : List Char}

theorem of_visible (hne : cs ≠ []) (h : ∀ c ∈ cs, isBlank c = false) : HasVisibleEnds cs where
  begins := by
    rw [Text.beginsVisible, List.head?_eq_some_head hne, Option.any_some, h _ (List.head_mem hne)]
    rfl
  ends := by
    rw [Text.endsVisible, List.getLast?_eq_some_getLast hne, Option.any_some,
      h _ (List.getLast_mem hne)]
    rfl

theorem of_word_or {x : Char} (hx : isBlank x = false) (hne : cs ≠ [])
    (h : ∀ c ∈ cs, isWord c = true ∨ c = x) : HasVisibleEnds cs := by
  refine .of_visible hne ?_
  intro c hc
  rcases h c hc with hword | rfl
  · exact Text.visible_of_word hword
  · exact hx

theorem append (hcs : HasVisibleEnds cs) (hds : HasVisibleEnds ds) (middle : List Char) :
    HasVisibleEnds (cs ++ (middle ++ ds)) := by
  obtain ⟨c, hc, hvisible⟩ := Text.exists_of_begins_visible hcs.begins
  obtain ⟨d, hd, hend⟩ := Text.exists_of_ends_visible hds.ends
  refine ⟨?_, ?_⟩
  · rw [Text.beginsVisible, List.head?_append, hc, Option.some_or, Option.any_some, hvisible]
    rfl
  · rw [Text.endsVisible, List.getLast?_append, List.getLast?_append, hd, Option.some_or,
      Option.some_or, Option.any_some, hend]
    rfl

theorem trimmed_eq (h : HasVisibleEnds cs) {front back : List Char}
    (hfront : ∀ c ∈ front, isBlank c = true) (hback : ∀ c ∈ back, isBlank c = true) :
    Text.trimmed (front ++ (cs ++ back)) = cs := by
  rw [Text.trimmed_blank_append hfront, Text.trimmed_append_blank hback,
    Text.trimmed_whole h.begins h.ends]

end HasVisibleEnds

/-- Words between white space, if they begin and end with something else. -/
theorem exists_between_iff {P : List Char → Prop} (hvisible : ∀ t, P t → HasVisibleEnds t)
    {l : List Char} :
    (∃ lead t tail, l = lead ++ (t ++ tail) ∧ (∀ c ∈ lead, isBlank c = true) ∧ P t ∧
      ∀ c ∈ tail, isBlank c = true) ↔ P (Text.trimmed l) := by
  constructor
  · rintro ⟨lead, t, tail, rfl, hlead, ht, htail⟩
    rwa [(hvisible t ht).trimmed_eq hlead htail]
  · intro h
    obtain ⟨lead, tail, hlead, htail, hl⟩ := Text.drop_both_while_append isBlank l
    exact ⟨lead, Text.trimmed l, tail, by rw [← List.append_assoc]; exact hl, hlead, h, htail⟩

/-- A pattern for words that fill a line, white space apart. -/
theorem line_occurs_iff (ps : List Pattern) {P : List Char → Prop}
    (hps : ∀ before w rest held, (Pattern.all ps).Matches before w rest held ↔ held = [] ∧ P w)
    (hvisible : ∀ t, P t → HasVisibleEnds t) (l : String) :
    (Pattern.all (.textStart :: .many .blank :: (ps ++ [.many .blank, .textEnd]))).occurs l = true ↔
      P (Text.trimmed l.toList) := by
  rw [Pattern.occurs_iff, ← exists_between_iff hvisible]
  simp only [Pattern.matches_all_cons_iff (p := .textStart) fun _ _ _ _ => Iff.rfl,
    Pattern.matches_all_cons_iff (p := .many _) fun _ _ _ _ => Pattern.matches_many_iff,
    Pattern.matches_all_append_iff hps,
    Pattern.matches_all_singleton_iff (p := .textEnd) fun _ _ _ _ => Iff.rfl]
  constructor
  · rintro ⟨front, _, rest, _, hl, _, _, rfl, ⟨rfl, hfront⟩, lead, _, rfl, hlead, w, _, rfl, hw,
      tail, _, rfl, htail, rfl, rfl, rfl⟩
    rw [List.getLast?_eq_none_iff.mp hfront] at hl
    exact ⟨lead, w, tail, by simpa using hl, hlead, hw, htail⟩
  · rintro ⟨lead, w, tail, hl, hlead, hw, htail⟩
    exact ⟨[], _, [], [], by simpa using hl, [], _, rfl, ⟨rfl, rfl⟩, lead, _, rfl, hlead, w, tail,
      rfl, hw, tail, [], (List.append_nil tail).symm, htail, rfl, rfl, rfl⟩

theorem HasVisibleEnds.ended {w : List Char} (hw : HasVisibleEnds w) (middle : List Char) :
    HasVisibleEnds (w ++ (middle ++ ";".toList)) :=
  hw.append ⟨by decide, by decide⟩ middle

theorem import_line_iff (l : String) :
    importLine.occurs l = true ↔ IsImport (Text.trimmed l.toList) := by
  refine line_occurs_iff [.text "import", .run .blank, dottedName, .optional (.text ".*"),
    .many .blank, .text ";"] ?_ ?_ l
  · intro before w rest held
    simp only [Pattern.matches_all_cons_iff (p := .text _) fun _ _ _ _ => Pattern.matches_text_iff,
      Pattern.matches_all_cons_iff (p := .run .blank) fun _ _ _ _ => Pattern.matches_run_iff,
      Pattern.matches_all_cons_iff (p := dottedName) fun _ _ _ _ => matches_dotted_name_iff,
      Pattern.matches_all_cons_iff (p := .optional _) fun _ _ _ _ =>
        Pattern.matches_optional_iff fun _ _ _ _ => Pattern.matches_text_iff,
      Pattern.matches_all_cons_iff (p := .many _) fun _ _ _ _ => Pattern.matches_many_iff,
      Pattern.matches_all_nil]
    constructor
    · rintro ⟨_, _, rfl, rfl, gap, _, rfl, hgap, name, _, rfl, hname, star, _, rfl, hstar, space, _,
        rfl, hspace, _, _, rfl, rfl, rfl, rfl⟩
      exact ⟨rfl, gap, name, star, space, rfl, hgap, hname, hstar, hspace⟩
    · rintro ⟨rfl, gap, name, star, space, rfl, hgap, hname, hstar, hspace⟩
      exact ⟨_, _, rfl, rfl, gap, _, rfl, hgap, name, _, rfl, hname, star, _, rfl, hstar, space, _,
        rfl, hspace, _, [], rfl, rfl, rfl, rfl⟩
  · rintro _ ⟨gap, name, star, space, rfl, -⟩
    simpa using HasVisibleEnds.ended (⟨by decide, by decide⟩ :
      HasVisibleEnds "import".toList) (gap ++ (name ++ (star ++ space)))

theorem package_line_iff (l : String) :
    packageLine.occurs l = true ↔ IsPackage (Text.trimmed l.toList) := by
  refine line_occurs_iff [.text "package", .run .blank, dottedName, .many .blank, .text ";"] ?_ ?_ l
  · intro before w rest held
    simp only [Pattern.matches_all_cons_iff (p := .text _) fun _ _ _ _ => Pattern.matches_text_iff,
      Pattern.matches_all_cons_iff (p := .run .blank) fun _ _ _ _ => Pattern.matches_run_iff,
      Pattern.matches_all_cons_iff (p := dottedName) fun _ _ _ _ => matches_dotted_name_iff,
      Pattern.matches_all_cons_iff (p := .many _) fun _ _ _ _ => Pattern.matches_many_iff,
      Pattern.matches_all_nil]
    constructor
    · rintro ⟨_, _, rfl, rfl, gap, _, rfl, hgap, name, _, rfl, hname, space, _, rfl, hspace, _, _,
        rfl, rfl, rfl, rfl⟩
      exact ⟨rfl, gap, name, space, rfl, hgap, hname, hspace⟩
    · rintro ⟨rfl, gap, name, space, rfl, hgap, hname, hspace⟩
      exact ⟨_, _, rfl, rfl, gap, _, rfl, hgap, name, _, rfl, hname, space, _, rfl, hspace, _,
        [], rfl, rfl, rfl, rfl⟩
  · rintro _ ⟨gap, name, space, rfl, -⟩
    simpa using HasVisibleEnds.ended (⟨by decide, by decide⟩ :
      HasVisibleEnds "package".toList) (gap ++ (name ++ space))

end CodeJudge.JavaSource
