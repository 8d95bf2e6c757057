import CodeJudge.Proofs.Solution.Declaration
import CodeJudge.Solution.Java
/-!
Public classes of a solution. The declaration that is hidden begins a line, white space apart, and
all that is taken out of it is the word `public` with the white space behind it.
-/
namespace CodeJudge.JavaSource

open Solution (Declares IsDeclaration IsGap)
open Text (isBlank isWord Pattern Place)

/-- The words of the class without `public`; the class may be final. -/
def IsClass (w : List Char) : Prop :=
  ∃ modifier gap, w = modifier ++ ("class".toList ++ (gap ++ "Solution".toList)) ∧ IsGap gap ∧
    (modifier = [] ∨ ∃ space, modifier = "final".toList ++ space ∧ IsGap space)

theorem IsClass.last_eq {w : List Char} (h : IsClass w) : w.getLast? = some 'n' := by
  obtain ⟨modifier, gap, rfl, -, -⟩ := h
  simp only [List.getLast?_append]
  rfl

/-- The words of a public class, in the parts of which `public` and what is behind it are hidden. -/
structure IsPublicClass (space gap last : List Char) : Prop where
  space : ∀ c ∈ space, isBlank c = true
  gap : IsGap gap
  last : IsClass last

/-- The part of the pattern that is kept. -/
def keptClass : Pattern :=
  .all [.optional (.both (.text "final") (.run .blank)), .text "class", .run .blank,
    .text "Solution", .wordEdge]

theorem matches_final_iff {before : Option Char} {w rest : List Char}
    {held : List (Nat × List Char)} :
    (Pattern.both (.text "final") (.run .blank)).Matches before w rest held ↔
      held = [] ∧ ∃ space, w = "final".toList ++ space ∧ IsGap space := by
  rw [Pattern.matches_both_iff fun _ _ _ _ => Pattern.matches_text_iff]
  simp only [Pattern.matches_run_iff]
  constructor
  · rintro ⟨_, space, rfl, rfl, rfl, hspace⟩
    exact ⟨rfl, space, rfl, hspace⟩
  · rintro ⟨rfl, space, rfl, hspace⟩
    exact ⟨_, space, rfl, rfl, rfl, hspace⟩

theorem matches_kept_class_iff {before : Option Char} {w rest : List Char}
    {held : List (Nat × List Char)} : keptClass.Matches before w rest held ↔
      held = [] ∧ IsClass w ∧ rest.head?.any isWord = false := by
  rw [keptClass, Pattern.matches_all_cons_iff fun _ _ _ _ =>
    Pattern.matches_optional_iff fun _ _ _ _ => matches_final_iff]
  simp only [Pattern.matches_all_cons_iff fun _ _ _ _ => Pattern.matches_text_iff]
  simp only [Pattern.matches_all_cons_iff fun _ _ _ _ => Pattern.matches_run_iff]
  simp only [Pattern.matches_all_cons_iff fun _ _ _ _ => Pattern.matches_text_iff]
  simp only [Pattern.matches_all_singleton_iff (p := Pattern.wordEdge) fun _ _ _ _ => Iff.rfl]
  constructor
  · rintro ⟨modifier, _, rfl, hmodifier, _, _, rfl, rfl, gap, _, rfl, hgap, _, _, rfl, rfl, rfl,
      rfl, hrest⟩
    rw [List.append_nil]
    exact ⟨rfl, ⟨modifier, gap, rfl, hgap, hmodifier.symm⟩, Bool.eq_false_iff.mpr hrest.symm⟩
  · rintro ⟨rfl, ⟨modifier, gap, rfl, hgap, hmodifier⟩, hrest⟩
    refine ⟨modifier, _, rfl, hmodifier.symm, _, _, rfl, rfl, gap, "Solution".toList, rfl, hgap, _,
      [], (List.append_nil _).symm, rfl, rfl, rfl, ?_⟩
    rw [hrest]
    exact Bool.false_ne_true.symm

theorem matches_public_class_iff {before : Option Char} {w rest : List Char}
    {held : List (Nat × List Char)} : publicClass.Matches before w rest held ↔
      ∃ space gap last, w = space ++ ("public".toList ++ (gap ++ last)) ∧
        held = [(2, last), (1, space)] ∧ IsPublicClass space gap last ∧
        (∀ c ∈ before, c = '\n') ∧ rest.head?.any isWord = false := by
  have hpattern : publicClass = .all [.lineStart, .group 1 (.many .blank), .text "public",
      .run .blank, .group 2 keptClass] := rfl
  rw [hpattern, Pattern.matches_all_cons_iff fun _ _ _ _ => Iff.rfl]
  simp only [Pattern.matches_group_cons_iff fun _ _ _ _ => Pattern.matches_many_iff]
  simp only [Pattern.matches_all_cons_iff fun _ _ _ _ => Pattern.matches_text_iff]
  simp only [Pattern.matches_all_cons_iff fun _ _ _ _ => Pattern.matches_run_iff]
  simp only [Pattern.matches_group_cons_iff fun _ _ _ _ => matches_kept_class_iff]
  simp only [Pattern.matches_all_nil]
  constructor
  · rintro ⟨_, _, rfl, ⟨rfl, hbefore⟩, space, _, _, rfl, rfl, hspace, _, _, rfl, rfl, gap, _, rfl,
      hgap, last, _, _, rfl, rfl, ⟨hlast, hrest⟩, rfl, rfl⟩
    rw [List.append_nil]
    exact ⟨space, gap, last, rfl, rfl, ⟨hspace, hgap, hlast⟩, hbefore, hrest⟩
  · rintro ⟨space, gap, last, rfl, rfl, ⟨hspace, hgap, hlast⟩, hbefore, hrest⟩
    exact ⟨[], _, rfl, ⟨rfl, hbefore⟩, space, _, _, rfl, rfl, hspace, _, _, rfl, rfl, gap, last,
      rfl, hgap, last, [], _, (List.append_nil last).symm, rfl, ⟨hlast, hrest⟩, rfl, rfl⟩

/-- A public class stands in the text at the start of a line. -/
def HasPublicClass (cs : List Char) : Prop :=
  ∃ front space gap last rest, cs = front ++ (space ++ ("public".toList ++ (gap ++ last)) ++ rest) ∧
    IsPublicClass space gap last ∧ (∀ c ∈ front.getLast?, c = '\n') ∧
    rest.head?.any isWord = false

theorem public_class_occurs_iff {code : String} :
    publicClass.occurs code = true ↔ HasPublicClass code.toList := by
  rw [Pattern.occurs_iff]
  simp only [matches_public_class_iff]
  constructor
  · rintro ⟨front, _, rest, _, hcode, space, gap, last, rfl, -, hclass, hfront, hrest⟩
    exact ⟨front, space, gap, last, rest, hcode, hclass, hfront, hrest⟩
  · rintro ⟨front, space, gap, last, rest, hcode, hclass, hfront, hrest⟩
    exact ⟨front, _, rest, _, hcode, space, gap, last, rfl, rfl, hclass, hfront, hrest⟩

/-- What stands for the declaration of a public class: its parts around `public`. -/
def hidden (b : Place) : List Char := (b.group? 1).getD [] ++ (b.group? 2).getD []

theorem hide_class_eq (code : String) :
    (hideClass code).toList = publicClass.replacedFrom hidden code.length none code.toList :=
  Pattern.replace_all_eq publicClass hidden code

theorem hide_class_of_not_occurs {code : String} (h : publicClass.occurs code = false) :
    hideClass code = code := by
  have hnone : publicClass.findFrom none code.toList = none := by
    simpa [Pattern.occurs] using h
  rw [← String.toList_inj, hide_class_eq, Pattern.replaced_from_of_none _ _ hnone]

/-- What is found starts a line, and `public` with the white space behind it is taken out of it. -/
theorem hidden_found {before : Option Char} {cs passed : List Char} {b : Place}
    (h : publicClass.findFrom before cs = some (passed, b)) :
    ∃ space gap last,
      cs = passed ++ (space ++ ("public".toList ++ (gap ++ last)) ++ b.rest) ∧
      hidden b = space ++ last ∧ b.before = some 'n' ∧ IsPublicClass space gap last ∧
      (∀ c ∈ passed.getLast?.or before, c = '\n') ∧ b.rest.head?.any isWord = false := by
  obtain ⟨w, hcs, hbefore, hmatch⟩ := Pattern.matches_of_find h
  obtain ⟨space, gap, last, rfl, hgroups, hclass, hstart, hrest⟩ :=
    matches_public_class_iff.mp hmatch
  refine ⟨space, gap, last, hcs, ?_, ?_, hclass, hstart, hrest⟩
  · rw [hidden, Place.group?, Place.group?, hgroups]
    rfl
  · rw [hbefore]
    simp only [Pattern.last_append_or, hclass.last.last_eq, Option.some_or]

/-- The first declaration that is hidden starts a line, so no other one begins right behind it. -/
theorem head_replaced {c : Char} (hc : c ≠ '\n') (bound : Nat) (cs : List Char) :
    (publicClass.replacedFrom hidden bound (some c) cs).head? = cs.head? := by
  cases bound with
  | zero => rfl
  | succ bound =>
    cases h : publicClass.findFrom (some c) cs with
    | none => rw [Pattern.replaced_from_of_none _ _ h]
    | some found =>
      obtain ⟨passed, b⟩ := found
      obtain ⟨space, gap, last, hcs, -, -, -, hstart, -⟩ := hidden_found h
      cases passed with
      | nil => exact absurd (hstart c rfl) hc
      | cons d passed =>
        rw [Pattern.replaced_from_of_some _ _ h, hcs]
        rfl

theorem IsClass.declares {front last rest : List Char} (h : IsClass last)
    (hfront : front.getLast?.any isWord = false) (hrest : rest.head?.any isWord = false) :
    Declares (front ++ (last ++ rest)) := by
  obtain ⟨modifier, gap, rfl, hgap, hmodifier⟩ := h
  refine ⟨front ++ modifier, "class".toList ++ (gap ++ "Solution".toList), rest, by simp,
    ⟨_, gap, rfl, .inl rfl, hgap⟩, ?_, hrest⟩
  rcases hmodifier with rfl | ⟨space, rfl, hspace⟩
  · rwa [List.append_nil]
  · rw [← List.append_assoc]
    exact hspace.not_word_behind _

/-- The class is declared, whether it is public or not. -/
theorem declares_hide_class_iff {code : String} :
    Declares (hideClass code).toList ↔ Declares code.toList := by
  by_cases h : publicClass.occurs code = true
  · -- a public class is declared in the code, and what is left of it is declared in the result
    refine iff_of_true ?_ ?_
    · obtain ⟨⟨passed, b⟩, hfind⟩ := Option.isSome_iff_exists.mp h
      obtain ⟨space, gap, last, hcode, hhidden, hbefore, hclass, hstart, hrest⟩ :=
        hidden_found hfind
      obtain ⟨bound, hbound⟩ : ∃ bound, code.length = bound + 1 := by
        refine Nat.exists_eq_add_one.mpr ?_
        rw [← String.length_toList, hcode]
        simp
      rw [hide_class_eq, hbound, Pattern.replaced_from_of_some _ _ hfind, hhidden, hbefore,
        List.append_assoc, List.append_assoc, ← List.append_assoc]
      refine hclass.last.declares (Solution.not_word_behind_blank ?_ hclass.space) ?_
      · rw [Option.or_none] at hstart
        cases hlast : passed.getLast? with
        | none => rfl
        | some c =>
          rw [hstart c hlast]
          decide
      · rwa [head_replaced (by decide)]
    · obtain ⟨front, space, gap, last, rest, hcode, hclass, -, hrest⟩ :=
        public_class_occurs_iff.mp h
      have hsplit : code.toList = front ++ space ++ "public".toList ++ gap ++ (last ++ rest) := by
        rw [hcode]
        simp
      rw [hsplit]
      exact hclass.last.declares (hclass.gap.not_word_behind _) hrest
  · rw [hide_class_of_not_occurs (Bool.eq_false_iff.mpr h)]

end CodeJudge.JavaSource
