import CodeJudge.Proofs.Program.Skeleton
import CodeJudge.Proofs.Strategy.Fragment
/-!
Names in a plan. The variables of a plan have plain names, so that nothing a driver takes from a
plan ends a line unless the name of the function does.
-/
namespace CodeJudge

open Json (Printable)

theorem mem_numbered_from {α : Type} {first i : Nat} {a : α} {as : List α}
    (h : (i, a) ∈ numberedFrom first as) : a ∈ as := by
  obtain ⟨place, hplace⟩ := List.mem_iff_getElem?.mp h
  rw [getElem?_numbered_from] at hplace
  obtain ⟨b, hb, heq⟩ := Option.map_eq_some_iff.mp hplace
  cases heq
  exact List.mem_of_getElem? hb

namespace Plan

/-- Nothing that a driver takes from a plan ends a line. -/
structure IsSingleLine (p : Plan) : Prop where
  functionName : '\n' ∉ p.functionName.toList
  params : ∀ param ∈ p.params, VariableName.isPlain param.variableName.toList = true

namespace IsSingleLine

variable {p : Plan} (h : p.IsSingleLine)

include h

theorem printable_variable {param : PlannedParam} (hp : param ∈ p.params) :
    Printable param.variableName.toList :=
  VariableName.printable_of_plain (h.params param hp)

theorem printable_arguments : Printable p.argumentList.toList := by
  apply printable_intercalate (by decide)
  intro name hname
  obtain ⟨param, hparam, rfl⟩ := List.mem_map.mp hname
  exact h.printable_variable hparam

end IsSingleLine

theorem plain_variables_of_plan_params {r : Registry} {t : Target} {tests : List TestCase}
    {first : Nat} {specs : List FormatSpec} {params : List PlannedParam}
    (h : planParams r t tests first specs = .ok params) :
    ∀ param ∈ params, VariableName.isPlain param.variableName.toList = true := by
  induction specs generalizing first params with
  | nil =>
    cases h
    exact List.forall_mem_nil _
  | cons spec specs ih =>
    rw [planParams] at h
    split at h
    · cases h
    · split at h
      · cases h
      next rest hrest =>
        cases h
        exact List.forall_mem_cons.mpr ⟨VariableName.is_plain_of_param _ _, ih hrest⟩

theorem plain_variables_of_build {r : Registry} {t : Target} {problem : Problem}
    {tests : List TestCase} {tolerance : Binary64} {p : Plan}
    (h : build t problem tests r tolerance = .ok p) :
    ∀ param ∈ p.params, VariableName.isPlain param.variableName.toList = true := by
  obtain ⟨f, hbuilt⟩ := is_built_of_build h
  exact plain_variables_of_plan_params hbuilt.params

theorem is_single_line_of_build {r : Registry} {t : Target} {problem : Problem}
    {tests : List TestCase} {tolerance : Binary64} {p : Plan}
    (h : build t problem tests r tolerance = .ok p)
    (hname : '\n' ∉ problem.functionName.toList) : p.IsSingleLine := by
  obtain ⟨f, hbuilt⟩ := is_built_of_build h
  exact ⟨hbuilt.functionName ▸ hname, plain_variables_of_build h⟩

end Plan

end CodeJudge
