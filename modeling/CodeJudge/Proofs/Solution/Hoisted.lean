import CodeJudge.Proofs.Solution.Body
import CodeJudge.Proofs.Solution.Import
/-!
Import declarations of a solution. They are moved in front of all classes only if no white space
and no dollar sign stands in what they import; the others, and so all imports of static members,
stay where the contestant wrote them, behind the classes of the program.
-/
namespace CodeJudge.JavaSource

open Solution (IsGap)
open Text (isBlank isWord)

/-! What Java takes for an import declaration. -/

/-- A name of letters, digits, underscores and dollar signs. -/
def IsName (name : List Char) : Prop := name ≠ [] ∧ ∀ c ∈ name, isWord c = true ∨ c = '$'

instance (name : List Char) : Decidable (IsName name) :=
  @instDecidableAnd _ _ _ (List.decidableBAll (fun c => isWord c = true ∨ c = '$') name)

/-- A point between names, with white space around it. -/
def IsPoint (point : List Char) : Prop :=
  ∃ front back, point = front ++ '.' :: back ∧ (∀ c ∈ front, isBlank c = true) ∧
    ∀ c ∈ back, isBlank c = true

theorem is_point_dot : IsPoint ['.'] :=
  ⟨[], [], rfl, List.forall_mem_nil _, List.forall_mem_nil _⟩

theorem is_gap_space : IsGap [' '] := ⟨by decide, List.forall_mem_singleton.mpr (by decide)⟩

/-- Names with points between them. -/
inductive IsPath : List Char → Prop
  | name {name : List Char} (h : IsName name) : IsPath name
  | member {path point name : List Char} (hpath : IsPath path) (hpoint : IsPoint point)
    (hname : IsName name) : IsPath (path ++ (point ++ name))

/-- One member is imported, or on demand all that stand at a path. -/
inductive IsImported : List Char → Prop
  | one {path : List Char} (hpath : IsPath path) : IsImported path
  | all {path point : List Char} (hpath : IsPath path) (hpoint : IsPoint point) :
    IsImported (path ++ (point ++ ['*']))

/-- What may stand between `import` and the semicolon. -/
inductive IsSubject : List Char → Prop
  | type {words : List Char} (h : IsImported words) : IsSubject words
  | static {gap words : List Char} (hgap : IsGap gap) (h : IsImported words) :
    IsSubject ("static".toList ++ (gap ++ words))

/-- The text is an import declaration, and these are its words between `import` and the
semicolon. -/
def Imports (words t : List Char) : Prop :=
  ∃ gap space, t = "import".toList ++ (gap ++ (words ++ (space ++ ";".toList))) ∧ IsGap gap ∧
    IsSubject words ∧ ∀ c ∈ space, isBlank c = true

/-- The words hold no white space and no dollar sign. -/
def IsPlain (words : List Char) : Prop := ∀ c ∈ words, isBlank c = false ∧ c ≠ '$'

/-! The ends of the words. -/

theorem IsName.has_visible_ends {name : List Char} (h : IsName name) : HasVisibleEnds name :=
  .of_word_or (by decide) h.1 h.2

theorem IsPath.has_visible_ends {path : List Char} (h : IsPath path) : HasVisibleEnds path := by
  induction h with
  | name h => exact h.has_visible_ends
  | member _ _ hname ih => exact ih.append hname.has_visible_ends _

theorem IsImported.has_visible_ends {words : List Char} (h : IsImported words) :
    HasVisibleEnds words := by
  cases h with
  | one hpath => exact hpath.has_visible_ends
  | all hpath _ => exact hpath.has_visible_ends.append ⟨by decide, by decide⟩ _

theorem IsSubject.has_visible_ends {words : List Char} (h : IsSubject words) :
    HasVisibleEnds words := by
  cases h with
  | type h => exact h.has_visible_ends
  | static _ h => exact HasVisibleEnds.append ⟨by decide, by decide⟩ h.has_visible_ends _

theorem IsDotted.has_visible_ends {name : List Char} (h : IsDotted name) :
    HasVisibleEnds name :=
  .of_word_or (by decide) h.1 h.2

/-! Plain words. -/

namespace IsPlain

theorem append_iff {u v : List Char} : IsPlain (u ++ v) ↔ IsPlain u ∧ IsPlain v :=
  List.forall_mem_append

theorem eq_nil {w : List Char} (h : IsPlain w) (hblank : ∀ c ∈ w, isBlank c = true) : w = [] := by
  refine List.eq_nil_iff_forall_not_mem.mpr ?_
  intro c hc
  have hvisible := (h c hc).1
  rw [hblank c hc] at hvisible
  cases hvisible

theorem point_eq {point : List Char} (h : IsPlain point) (hpoint : IsPoint point) :
    point = ['.'] := by
  obtain ⟨front, back, rfl, hfront, hback⟩ := hpoint
  obtain ⟨hf, hb⟩ := append_iff.mp h
  rw [hf.eq_nil hfront, IsPlain.eq_nil (fun c hc => hb c (List.mem_cons_of_mem _ hc)) hback]
  rfl

theorem is_dotted {path : List Char} (h : IsPlain path) (hpath : IsPath path) :
    IsDotted path := by
  induction hpath with
  | name hname =>
    exact ⟨hname.1, fun c hc => .inl ((hname.2 c hc).resolve_right (h c hc).2)⟩
  | member _ hpoint hname ih =>
    -- a plain point has no white space around it
    obtain ⟨hp, hrest⟩ := append_iff.mp h
    obtain ⟨hdot, hn⟩ := append_iff.mp hrest
    obtain ⟨hne, hchars⟩ := ih hp
    rw [hdot.point_eq hpoint]
    refine ⟨by simp [hne], ?_⟩
    rw [List.forall_mem_append, List.forall_mem_append, List.forall_mem_singleton]
    exact ⟨hchars, .inr rfl, fun c hc => .inl ((hname.2 c hc).resolve_right (hn c hc).2)⟩

end IsPlain

theorem is_plain_of_dotted {name : List Char} (h : IsDotted name) : IsPlain name := by
  intro c hc
  rcases h.2 c hc with hword | rfl
  · refine ⟨Text.visible_of_word hword, ?_⟩
    rintro rfl
    exact absurd hword (by decide)
  · decide

/-- White space behind `static` keeps the words from being plain. -/
theorem exists_dotted_iff {words : List Char} (h : IsSubject words) :
    (∃ name star, words = name ++ star ∧ IsDotted name ∧ (star = ".*".toList ∨ star = [])) ↔
      IsPlain words := by
  constructor
  · rintro ⟨name, star, rfl, hname, rfl | rfl⟩
    · have hstar : IsPlain ".*".toList :=
        List.forall_mem_cons.mpr ⟨by decide, List.forall_mem_singleton.mpr (by decide)⟩
      exact IsPlain.append_iff.mpr ⟨is_plain_of_dotted hname, hstar⟩
    · rw [List.append_nil]
      exact is_plain_of_dotted hname
  · intro hplain
    cases h with
    | static hgap _ =>
      obtain ⟨-, hrest⟩ := IsPlain.append_iff.mp hplain
      exact absurd ((IsPlain.append_iff.mp hrest).1.eq_nil hgap.2) hgap.1
    | type h =>
      cases h with
      | one hpath => exact ⟨words, [], (List.append_nil _).symm, hplain.is_dotted hpath, .inr rfl⟩
      | all hpath hpoint =>
        obtain ⟨hp, hrest⟩ := IsPlain.append_iff.mp hplain
        rw [(IsPlain.append_iff.mp hrest).1.point_eq hpoint]
        exact ⟨_, ".*".toList, rfl, hp.is_dotted hpath, .inl rfl⟩

namespace Imports

variable {words t : List Char} (h : Imports words t)

include h

theorem is_import_iff : IsImport t ↔ IsPlain words := by
  obtain ⟨gap, space, rfl, hgap, hsubject, hspace⟩ := h
  rw [← exists_dotted_iff hsubject]
  constructor
  · rintro ⟨gap', name, star, space', heq, hgap', hname, hstar, hspace'⟩
    refine ⟨name, star, ?_, hname, hstar⟩
    -- both readings end with the semicolon, and the words are what is left between white space
    have hmiddle : gap ++ (words ++ space) = gap' ++ ((name ++ star) ++ space') := by
      have hall := List.append_cancel_left heq
      simp only [← List.append_assoc] at hall ⊢
      exact List.append_cancel_right hall
    have hends : HasVisibleEnds (name ++ star) := by
      rcases hstar with rfl | rfl
      · have hall : HasVisibleEnds ".*".toList := ⟨by decide, by decide⟩
        exact hname.has_visible_ends.append hall []
      · rw [List.append_nil]
        exact hname.has_visible_ends
    rw [← hsubject.has_visible_ends.trimmed_eq hgap.2 hspace, hmiddle,
      hends.trimmed_eq hgap'.2 hspace']
  · rintro ⟨name, star, rfl, hname, hstar⟩
    exact ⟨gap, name, star, space, by simp only [List.append_assoc], hgap, hname, hstar, hspace⟩

theorem begins : "import".toList <+: t := by
  obtain ⟨gap, space, rfl, -⟩ := h
  exact List.prefix_append _ _

theorem not_package : ¬ IsPackage t := by
  rintro ⟨gap, name, space, heq, -⟩
  have hpackage : "package".toList <+: t := heq ▸ List.prefix_append _ _
  rcases List.prefix_or_prefix_of_prefix h.begins hpackage with hle | hge
  · exact absurd hle (by decide)
  · exact absurd hge (by decide)

theorem not_class {w : String} (hw : w ∈ classWords) : ¬ w.toList <+: t := by
  have happart : ∀ w ∈ classWords, Text.Scanner.Apart w.toList "import".toList := by
    decide
  intro hbegins
  rcases List.prefix_or_prefix_of_prefix hbegins h.begins with hle | hge
  · exact (happart w hw).1 hle
  · exact (happart w hw).2 hge

/-- A declaration is moved exactly if its words are plain. -/
theorem mem_imports_iff {code : String} (hmem : t ∈ (Text.lines code.toList).map Text.trimmed) :
    String.ofList t ∈ (ofCode code).imports ↔ IsPlain words := by
  rw [← h.is_import_iff]
  constructor
  · intro himport
    obtain ⟨l, hl, heq⟩ := List.mem_map.mp himport
    have hline := (import_line_iff l).mp (List.mem_filter.mp hl).2
    rwa [String.ofList_injective heq] at hline
  · intro himport
    obtain ⟨l, hl, rfl⟩ := List.mem_map.mp hmem
    refine List.mem_map.mpr ⟨String.ofList l, List.mem_filter.mpr ⟨?_, ?_⟩, ?_⟩
    · exact List.mem_map_of_mem hl
    · rw [import_line_iff, String.toList_ofList]
      exact himport
    · rw [Text.trim, String.toList_ofList]

/-- The other declarations stay where they are. -/
theorem mem_body_iff {code : String} :
    t ∈ (Text.lines (ofCode code).body.toList).map Text.trimmed ↔
      t ∈ (Text.lines code.toList).map Text.trimmed ∧ ¬ IsPlain words := by
  have hne : t ≠ [] := by
    rintro rfl
    exact absurd h.begins (by decide)
  rw [JavaSource.mem_body_iff hne fun w hw => h.not_class hw, ← h.is_import_iff]
  constructor
  · rintro ⟨l, hl, rfl⟩
    obtain ⟨hline, hkept⟩ := List.mem_filter.mp hl
    obtain ⟨m, hm, rfl⟩ := List.mem_map.mp hline
    rw [Bool.and_eq_true, Bool.not_eq_true', Bool.not_eq_true', ← Bool.not_eq_true,
      import_line_iff] at hkept
    rw [String.toList_ofList] at hkept ⊢
    exact ⟨List.mem_map_of_mem hm, hkept.1⟩
  · rintro ⟨hmem, hnot⟩
    obtain ⟨m, hm, rfl⟩ := List.mem_map.mp hmem
    refine ⟨String.ofList m, List.mem_filter.mpr ⟨List.mem_map_of_mem hm, ?_⟩, ?_⟩
    · rw [Bool.and_eq_true, Bool.not_eq_true', Bool.not_eq_true', ← Bool.not_eq_true,
        ← Bool.not_eq_true, import_line_iff, package_line_iff, String.toList_ofList]
      exact ⟨hnot, h.not_package⟩
    · rw [String.toList_ofList]

end Imports

/-- Import declarations are moved exactly if their words are plain, and no line of the body is one
exactly if those of all lines of the code are. -/
theorem imports_hoisted_iff (code : String) :
    (∀ l ∈ Text.linesOf code, ∀ words, Imports words (Text.trimmed l.toList) →
      (Text.trim l ∈ (ofCode code).imports ↔ IsPlain words)) ∧
    ((∀ l ∈ Text.linesOf (ofCode code).body, ∀ words, ¬ Imports words (Text.trimmed l.toList)) ↔
      ∀ l ∈ Text.linesOf code, ∀ words, Imports words (Text.trimmed l.toList) →
        IsPlain words) := by
  have hlines (s : String) (P : List Char → Prop) :
      (∀ l ∈ Text.linesOf s, P (Text.trimmed l.toList)) ↔
        ∀ t ∈ (Text.lines s.toList).map Text.trimmed, P t := by
    simp [Text.linesOf]
  refine ⟨?_, ?_⟩
  · intro l hl words h
    refine h.mem_imports_iff ?_
    obtain ⟨m, hm, rfl⟩ := List.mem_map.mp hl
    rw [String.toList_ofList]
    exact List.mem_map_of_mem hm
  · rw [hlines _ fun t => ∀ words, ¬ Imports words t,
      hlines _ fun t => ∀ words, Imports words t → IsPlain words]
    constructor
    · intro hnone t ht words h
      by_contra hplain
      exact hnone t (h.mem_body_iff.mpr ⟨ht, hplain⟩) words h
    · intro hplain t ht words h
      obtain ⟨hmem, hnot⟩ := h.mem_body_iff.mp ht
      exact hnot (hplain t hmem words h)

/-- An import on demand among white space is moved, and none is left. -/
theorem plain_import_hoisted :
    let code := "\timport java.util.* ;\nclass Solution \x7b \x7d"
    let words := "java.util.*".toList
    Imports words "import java.util.* ;".toList ∧ IsPlain words ∧
      "import java.util.* ;" ∈ (ofCode code).imports ∧
      ∀ l ∈ Text.linesOf (ofCode code).body, ∀ words, ¬ Imports words (Text.trimmed l.toList) := by
  intro code words
  have hlines : Text.linesOf code = ["\timport java.util.* ;", "class Solution \x7b \x7d"] := by
    decide
  have hjava : IsPath "java".toList := .name (by decide)
  have hutil : IsPath "java.util".toList :=
    hjava.member is_point_dot (show IsName "util".toList by decide)
  have hwords : Imports words "import java.util.* ;".toList :=
    ⟨" ".toList, " ".toList, rfl, is_gap_space, .type (.all hutil is_point_dot), is_gap_space.2⟩
  have hplain : IsPlain words := by
    have hall : (words.all fun c => !isBlank c && c != '$') = true := by decide
    intro c hc
    simpa using List.all_eq_true.mp hall c hc
  obtain ⟨hmoved, hleft⟩ := imports_hoisted_iff code
  rw [hlines] at hmoved hleft
  have himport : IsImport "import java.util.* ;".toList := hwords.is_import_iff.mpr hplain
  have htrimmed : Text.trimmed "\timport java.util.* ;".toList = "import java.util.* ;".toList := by
    decide
  refine ⟨hwords, hplain, ?_, hleft.mpr ?_⟩
  · refine (hmoved _ List.mem_cons_self words ?_).mpr hplain
    rwa [htrimmed]
  · refine List.forall_mem_cons.mpr ⟨?_, List.forall_mem_singleton.mpr ?_⟩
    · intro other hother
      rw [htrimmed] at hother
      exact hother.is_import_iff.mp himport
    · intro other hother
      exact absurd hother.begins (by decide)

/-- An import of a static member is left behind the classes of the program. -/
theorem static_import_not_hoisted :
    let code := "import static java.lang.Math.max;\nclass Solution \x7b \x7d"
    (ofCode code).imports = [] ∧ ∃ l ∈ Text.linesOf (ofCode code).body, ∃ words,
      Imports words (Text.trimmed l.toList) := by
  intro code
  have hbody : "import static java.lang.Math.max;" ∈ Text.linesOf (ofCode code).body := by
    decide
  have hjava : IsPath "java".toList := .name (by decide)
  have hlang : IsPath "java.lang".toList :=
    hjava.member is_point_dot (show IsName "lang".toList by decide)
  have hmath : IsPath "java.lang.Math".toList :=
    hlang.member is_point_dot (show IsName "Math".toList by decide)
  have hmax : IsPath "java.lang.Math.max".toList :=
    hmath.member is_point_dot (show IsName "max".toList by decide)
  exact ⟨by decide, _, hbody, _, " ".toList, [], rfl, is_gap_space,
    .static is_gap_space (.one hmax), List.forall_mem_nil _⟩

end CodeJudge.JavaSource
