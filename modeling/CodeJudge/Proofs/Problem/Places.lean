import CodeJudge.Problem.Formats
import CodeJudge.Proofs.Format.TypeName
/-!
Places of parameters. However a problem describes its inputs, the shapes that it resolves to stand
at the places that they say, and completing shapes twice is the same as completing them once.
-/
namespace CodeJudge

theorem getElem?_numbered_from {α : Type} (first : Nat) (as : List α) (i : Nat) :
    (numberedFrom first as)[i]? = as[i]?.map fun a => (first + i, a) := by
  induction as generalizing first i with
  | nil => rfl
  | cons a as ih =>
    cases i with
    | zero => rfl
    | succ i =>
      rw [numberedFrom, List.getElem?_cons_succ, List.getElem?_cons_succ, ih,
        Nat.add_right_comm, Nat.add_assoc]

theorem length_numbered_from {α : Type} (first : Nat) (as : List α) :
    (numberedFrom first as).length = as.length := by
  induction as generalizing first with
  | nil => rfl
  | cons a as ih => rw [numberedFrom, List.length_cons, List.length_cons, ih]

/-- Each shape stands at the place that it says, counted from `first`. -/
def Placed (first : Nat) (specs : List FormatSpec) : Prop :=
  ∀ (i : Nat) (spec : FormatSpec), specs[i]? = some spec → spec.paramIndex = some (first + i)

namespace Placed

theorem nil (first : Nat) : Placed first [] := by
  intro i spec h
  cases h

theorem cons_iff (first : Nat) (spec : FormatSpec) (specs : List FormatSpec) :
    Placed first (spec :: specs) ↔ spec.paramIndex = some first ∧ Placed (first + 1) specs := by
  constructor
  · intro h
    refine ⟨h 0 spec rfl, ?_⟩
    intro i other hi
    rw [h (i + 1) other hi, Nat.add_right_comm, Nat.add_assoc]
  · rintro ⟨hspec, h⟩ i other hi
    cases i with
    | zero =>
      cases hi
      exact hspec
    | succ i => rw [h i other hi, Nat.add_right_comm, Nat.add_assoc]

/-- The check of the places of a structured description. -/
theorem all_iff (first : Nat) (specs : List FormatSpec) :
    ((numberedFrom first specs).all fun (i, spec) => spec.paramIndex == some i) = true ↔
      Placed first specs := by
  induction specs generalizing first with
  | nil => simp [numberedFrom, nil]
  | cons spec specs ih =>
    rw [cons_iff, ← ih, numberedFrom, List.all_cons, Bool.and_eq_true, beq_iff_eq]

end Placed

theorem insert_by_place_last (spec : FormatSpec) (specs : List FormatSpec)
    (h : ∀ other ∈ specs, other.paramIndex.getD 0 ≤ spec.paramIndex.getD 0) :
    insertByPlace spec specs = specs ++ [spec] := by
  induction specs with
  | nil => rfl
  | cons other specs ih =>
    have hother : ¬ spec.paramIndex.getD 0 < other.paramIndex.getD 0 :=
      Nat.not_lt.mpr (h other (by simp))
    have hrest := ih fun third hthird => h third (List.mem_cons_of_mem other hthird)
    rw [insertByPlace, if_neg hother, hrest, List.cons_append]

/-- Shapes that stand at their places are in order already. -/
theorem sort_by_place_of_placed {specs : List FormatSpec} (h : Placed 0 specs) :
    sortByPlace specs = specs := by
  -- the invariant: what is in order already is the front of the shapes
  have go (done rest : List FormatSpec) (hp : Placed 0 (done ++ rest)) :
      rest.foldl (fun done spec => insertByPlace spec done) done = done ++ rest := by
    induction rest generalizing done with
    | nil => simp
    | cons spec rest ih =>
      have hspec : spec.paramIndex = some (0 + done.length) :=
        hp done.length spec (by simp)
      have hlast : insertByPlace spec done = done ++ [spec] := by
        refine insert_by_place_last spec done ?_
        intro other hother
        obtain ⟨i, hi⟩ := List.mem_iff_getElem?.mp hother
        have hlt : i < done.length := (List.getElem?_eq_some_iff.mp hi).1
        have hplace := hp i other (by rw [List.getElem?_append_left hlt, hi])
        rw [hplace, hspec]
        exact Nat.add_le_add_left hlt.le 0
      rw [List.foldl_cons, hlast, ih _ (by simpa using hp), List.append_assoc,
        List.singleton_append]
  exact go [] specs h

/-- The brackets of a plain text can be counted, if the description is one. -/
def Description.BracketsFit (d : Description) : Prop :=
  ∀ text, d.decode = .string text → TypeName.DepthFits 0 text.toList

namespace Problem

theorem getElem?_complete_inputs (p : Problem) (specs : List FormatSpec) (i : Nat) :
    (p.completeInputs specs)[i]? =
      specs[i]?.map fun spec => (spec.placedAt i).namedBy (p.paramName? i) := by
  rw [completeInputs, List.getElem?_map, getElem?_numbered_from, Option.map_map]
  simp [Function.comp_def]

theorem length_complete_inputs (p : Problem) (specs : List FormatSpec) :
    (p.completeInputs specs).length = specs.length := by
  rw [completeInputs, List.length_map, length_numbered_from]

/-- Only the names of the parameters matter. -/
theorem complete_inputs_congr {p q : Problem} (h : p.params = q.params) :
    p.completeInputs = q.completeInputs := by
  funext specs
  simp only [completeInputs, paramName?, h]

theorem placed_complete_inputs (p : Problem) {specs : List FormatSpec}
    (h : ∀ (i : Nat) (spec : FormatSpec), specs[i]? = some spec → spec.paramIndex.getD i = i) :
    Placed 0 (p.completeInputs specs) := by
  intro i spec hspec
  rw [getElem?_complete_inputs] at hspec
  obtain ⟨raw, hraw, rfl⟩ := Option.map_eq_some_iff.mp hspec
  rw [Nat.zero_add]
  exact congrArg some (h i raw hraw)

theorem placed_of_plain (p : Problem) {specs : List FormatSpec}
    (h : ∀ spec ∈ specs, spec.IsPlain) : Placed 0 (p.completeInputs specs) := by
  refine p.placed_complete_inputs ?_
  intro i spec hspec
  rw [(h spec (List.mem_of_getElem? hspec)).paramIndex, Option.getD_none]

theorem complete_inputs_idem (p : Problem) (specs : List FormatSpec) :
    p.completeInputs (p.completeInputs specs) = p.completeInputs specs := by
  apply List.ext_getElem?
  intro i
  rw [getElem?_complete_inputs, getElem?_complete_inputs, Option.map_map]
  congr 1
  -- a place and a name are only given where there is none
  funext spec
  simp [FormatSpec.namedBy, FormatSpec.placedAt, Option.or_assoc]

theorem placed_structured_inputs {d : Description} {specs : List FormatSpec}
    (h : structuredInputs d = .ok specs) : Placed 0 specs := by
  rw [structuredInputs] at h
  split at h
  · cases h
  · split at h
    · cases h
    · dsimp only at h
      split at h
      · next hall =>
        cases h
        exact (Placed.all_iff 0 _).mp hall
      · cases h
  · cases h

/-- The shapes of a list of type names, if its brackets are counted without a bound. -/
def namedInputs (d : Description) : List FormatSpec :=
  match d.decode with
  | .array names => names.map typeNameItem
  | .string text => (TypeName.listed text).map TypeName.toSpec
  | _ => []

theorem type_name_inputs_of_fits {d : Description} (h : d.BracketsFit) :
    typeNameInputs d = .ok (namedInputs d) := by
  rw [typeNameInputs, namedInputs]
  cases hd : d.decode with
  | string text =>
    dsimp only
    rw [TypeName.split_top_level_of_fits (h text hd)]
  | array items | null | bool b | number n | object members => rfl

theorem type_name_inputs_of_not_fits {d : Description} (h : ¬ d.BracketsFit) :
    typeNameInputs d = .error (.overflow .int32) := by
  rw [Description.BracketsFit] at h
  push Not at h
  obtain ⟨text, htext, hdeep⟩ := h
  rw [typeNameInputs, htext]
  dsimp only
  rw [TypeName.split_top_level_of_not_fits hdeep]

theorem plain_of_type_names {d : Description} : ∀ spec ∈ namedInputs d, spec.IsPlain := by
  intro spec hspec
  rw [namedInputs] at hspec
  split at hspec
  · obtain ⟨v, -, rfl⟩ := List.mem_map.mp hspec
    unfold typeNameItem
    split
    · exact TypeName.isPlain_to_spec _
    · exact TypeName.isPlain_scalar _
  · obtain ⟨name, -, rfl⟩ := List.mem_map.mp hspec
    exact TypeName.isPlain_to_spec name
  · cases hspec

/-- The brackets of the text that lists the inputs can be counted, if there is one. -/
def BracketsFit (p : Problem) : Prop := ∀ d, p.inputType = some d → d.BracketsFit

variable {p : Problem}

theorem input_specs_of_type_names {d : Description} (hin : p.inputFormats = none)
    (h : p.inputType = some d) : p.inputSpecs = (typeNameInputs d).map p.completeInputs := by
  rw [inputSpecs, hin, h]
  rfl

theorem input_specs_of_fits {d : Description} (hin : p.inputFormats = none)
    (h : p.inputType = some d) (hfits : p.BracketsFit) :
    p.inputSpecs = .ok (p.completeInputs (namedInputs d)) := by
  rw [input_specs_of_type_names hin h, type_name_inputs_of_fits (hfits d h)]
  rfl

/-- Type names resolve unless their brackets are too deep to be counted. -/
theorem input_specs_of_not_fits (hin : p.inputFormats = none) (h : ¬ p.BracketsFit) :
    p.inputSpecs = .error (.overflow .int32) := by
  rw [BracketsFit] at h
  push Not at h
  obtain ⟨d, hd, hdeep⟩ := h
  rw [input_specs_of_type_names hin hd, type_name_inputs_of_not_fits hdeep]
  rfl

theorem brackets_fit_of_input_specs {specs : List FormatSpec} (hin : p.inputFormats = none)
    (h : p.inputSpecs = .ok specs) : p.BracketsFit := by
  by_contra hdeep
  rw [input_specs_of_not_fits hin hdeep] at h
  cases h

/-- Every shape of an input stands at its place, whatever describes it. -/
theorem placed_input_specs {specs : List FormatSpec}
    (h : p.inputSpecs = .ok specs) : Placed 0 specs := by
  rw [inputSpecs] at h
  split at h
  · next d _ =>
    cases hd : structuredInputs d with
    | error e =>
      rw [hd] at h
      cases h
    | ok raw =>
      rw [hd] at h
      cases h
      -- the places have been checked, so completing cannot give other ones
      refine p.placed_complete_inputs ?_
      intro i spec hspec
      rw [placed_structured_inputs hd i spec hspec, Nat.zero_add, Option.getD_some]
  · next d _ =>
    by_cases hfits : d.BracketsFit
    · rw [type_name_inputs_of_fits hfits] at h
      cases h
      exact p.placed_of_plain plain_of_type_names
    · rw [type_name_inputs_of_not_fits hfits] at h
      cases h
  · cases h
    refine p.placed_of_plain ?_
    intro spec hspec
    obtain ⟨q, -, rfl⟩ := List.mem_map.mp hspec
    exact TypeName.isPlain_to_spec q.typeName

end Problem

namespace Formats

/-- A problem resolves if its inputs and its output do. -/
theorem of_problem_eq_ok_iff {p : Problem} {f : Formats} :
    ofProblem p = .ok f ↔ p.inputSpecs = .ok f.inputs ∧ p.outputSpec = .ok f.output := by
  obtain ⟨inputs, output⟩ := f
  rw [ofProblem]
  cases p.inputSpecs with
  | error e => simp
  | ok specs =>
    cases p.outputSpec with
    | error e => simp
    | ok spec => simp

theorem placed_inputs {p : Problem} {f : Formats} (h : ofProblem p = .ok f) : Placed 0 f.inputs :=
  Problem.placed_input_specs (of_problem_eq_ok_iff.mp h).1

end Formats

end CodeJudge
