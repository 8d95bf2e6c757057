import CodeJudge.Proofs.Plan.Faults
import CodeJudge.Proofs.Plan.Starter
import CodeJudge.Proofs.Program.Generate
/-!
Skeletons. The skeleton of a program has native types that may come from the values in its tests,
and a starter is written without tests. They are the same exactly if no native type depends on the
tests.
-/
namespace CodeJudge

namespace FormatSpec

/-- The native type of a value of the shape, where the tests show the samples. -/
def nativeType (spec : FormatSpec) (samples : List Json.Value) (t : Target) : String :=
  spec.baseType.nativeType (.resolve spec.elementType samples) t

/-- The shape fixes its native type: its element names a scalar type, or it has none. -/
def FixesType (spec : FormatSpec) : Prop :=
  (spec.elementType.bind Scalar.ofName?).isSome = true ∨
    spec.baseType ∈ [.linkedList, .tree, .graph]

theorem native_type_of_fixed {spec : FormatSpec} (h : spec.FixesType)
    (samples others : List Json.Value) (t : Target) :
    spec.nativeType samples t = spec.nativeType others t := by
  rcases h with h | h
  · obtain ⟨s, hs⟩ := Option.isSome_iff_exists.mp h
    rw [nativeType, nativeType, Scalar.resolve, Scalar.resolve, hs]
  · rw [nativeType, nativeType]
    generalize spec.baseType = b at h
    fin_cases h <;> cases t <;> rfl

end FormatSpec

/-- No native type of the shapes for the target depends on the values in the tests. -/
structure Formats.IgnoresTests (f : Formats) (t : Target) (tests : List TestCase) : Prop where
  inputs : ∀ (i : Nat) (spec : FormatSpec), f.inputs[i]? = some spec →
    spec.nativeType (Plan.samplesAt tests i) t = spec.nativeType [] t
  output : f.output.nativeType (tests.map (·.output)) t = f.output.nativeType [] t

theorem Formats.ignores_tests_of_fixed {f : Formats} (h : ∀ spec ∈ f.all, spec.FixesType)
    (t : Target) (tests : List TestCase) : f.IgnoresTests t tests := by
  refine ⟨?_, ?_⟩
  · intro i spec hi
    have hspec : spec ∈ f.all := List.mem_append_left _ (List.mem_of_getElem? hi)
    exact FormatSpec.native_type_of_fixed (h spec hspec) _ _ t
  · have hspec : f.output ∈ f.all := List.mem_append_right _ (by simp)
    exact FormatSpec.native_type_of_fixed (h f.output hspec) _ _ t

theorem Registry.standard_strategy_for (role : Role) (b : BaseType) (t : Target) :
    standard.strategyFor role b t = .ok (.builtIn b) := by
  cases role <;> cases b <;> cases t <;> rfl

theorem Registry.standard_supports (role : Role) (b : BaseType) (t : Target) :
    standard.Supports role b t := by
  rw [← strategy_for_isOk, standard_strategy_for]
  rfl

namespace Plan

/-- With the built-in strategies, only the numbers of parameters and inputs are in the way of a
plan for shapes that are known. -/
theorem plannable_standard {t : Target} {p : Problem} {tests : List TestCase} {f : Formats}
    (hresolves : Formats.ofProblem p = .ok f)
    (hparams : p.params = [] ∨ p.params.length = f.inputs.length)
    (htests : ∀ test ∈ tests, test.input.length = f.inputs.length) :
    Plannable t p tests .standard f where
  resolves := hresolves
  signature := hparams
  tests := htests
  parameters spec _ := Registry.standard_supports .parsing spec.baseType t
  serialization := Registry.standard_supports .serialization f.output.baseType t
  parsing := Registry.standard_supports .parsing f.output.baseType t

/-- The parameter at a place, with the built-in strategy of its shape. -/
def builtInParam (tests : List TestCase) (place : Nat × FormatSpec) : PlannedParam where
  spec := place.2
  variableName := VariableName.ofParam place.2.paramName place.1
  scalar := .resolve place.2.elementType (samplesAt tests place.1)
  parsing := .builtIn place.2.baseType

/-- The plan for shapes with the built-in strategies. -/
def ofFormats (t : Target) (functionName : String) (f : Formats) (tests : List TestCase)
    (tolerance : Binary64) : Plan where
  target := t
  functionName := functionName
  params := (numberedFrom 0 f.inputs).map (builtInParam tests)
  output := ⟨f.output, .resolve f.output.elementType (tests.map (·.output)),
    .builtIn f.output.baseType, .builtIn f.output.baseType⟩
  tolerance := tolerance

theorem plan_params_standard (t : Target) (tests : List TestCase) (first : Nat)
    (specs : List FormatSpec) :
    planParams .standard t tests first specs =
      .ok ((numberedFrom first specs).map (builtInParam tests)) := by
  induction specs generalizing first with
  | nil => rfl
  | cons spec specs ih =>
    rw [planParams, Registry.standard_strategy_for]
    dsimp only
    rw [ih]
    rfl

theorem IsBuiltFrom.eq_of_formats {t : Target} {p : Problem} {tests : List TestCase}
    {tolerance : Binary64} {f : Formats} {plan : Plan}
    (h : plan.IsBuiltFrom t p tests .standard tolerance f) :
    plan = ofFormats t p.functionName f tests tolerance := by
  have hparams := h.params
  have houtput := h.output
  rw [plan_params_standard] at hparams
  rw [planOutput, Registry.standard_strategy_for, Registry.standard_strategy_for] at houtput
  obtain ⟨target, functionName, params, output, tolerance⟩ := plan
  cases hparams
  cases houtput
  cases h.target
  cases h.functionName
  cases h.tolerance
  rfl

/-- Plans for the same shapes have the same starter exactly if they have the same native types. -/
theorem starter_of_formats_iff (t : Target) (functionName : String) (f : Formats)
    (tests : List TestCase) (tolerance other : Binary64) :
    (ofFormats t functionName f tests tolerance).starter =
        (ofFormats t functionName f [] other).starter ↔ f.IgnoresTests t tests := by
  have halike : Alike (ofFormats t functionName f tests tolerance)
      (ofFormats t functionName f [] other) (numberedFrom 0 f.inputs)
      (fun place => place.2.nativeType (samplesAt tests place.1) t)
      (fun place => place.2.nativeType [] t)
      (fun place => VariableName.ofParam place.2.paramName place.1) := by
    refine ⟨rfl, rfl, ?_, ?_, ?_, ?_, ?_, ?_⟩
    · funext b
      simp [uses, specs, ofFormats, builtInParam, Function.comp_def]
    · rw [nativeParams, ofFormats, List.map_map]
      rfl
    · rw [nativeParams, ofFormats, List.map_map]
      rfl
    · simp [argumentList, ofFormats, builtInParam, Function.comp_def]
    · intro place _
      exact place.2.baseType.native_type_delimited t _ _
    · exact f.output.baseType.native_type_delimited t _ _
  rw [halike.starter_eq_iff]
  -- the numbered shapes are the shapes by their places
  have hitems : (∀ a ∈ numberedFrom 0 f.inputs,
      a.2.nativeType (samplesAt tests a.1) t = a.2.nativeType [] t) ↔
        ∀ (i : Nat) (spec : FormatSpec), f.inputs[i]? = some spec →
          spec.nativeType (samplesAt tests i) t = spec.nativeType [] t := by
    constructor
    · intro h i spec hi
      have hmem : (numberedFrom 0 f.inputs)[i]? = some (i, spec) := by
        rw [getElem?_numbered_from, hi, Option.map_some, Nat.zero_add]
      exact h (i, spec) (List.mem_of_getElem? hmem)
    · rintro h ⟨j, spec⟩ ha
      obtain ⟨i, hi⟩ := List.mem_iff_getElem?.mp ha
      rw [getElem?_numbered_from] at hi
      obtain ⟨other, hother, he⟩ := Option.map_eq_some_iff.mp hi
      cases he
      rw [Nat.zero_add]
      exact h i spec hother
  exact ⟨fun h => ⟨hitems.mp h.1, h.2⟩, fun h => ⟨hitems.mpr h.inputs, h.output⟩⟩

end Plan

namespace Program

theorem exists_generate {r : Registry} (tolerance : Binary64) {t : Target} {code : String}
    {p : Problem} {tests : List TestCase} {f : Formats} (hcode : Text.isBlankText code = false)
    (hplan : Plan.Plannable t p tests r f) :
    ∃ prog, generate r tolerance t code p tests = .ok prog := by
  obtain ⟨plan, hbuild⟩ := (Plan.exists_build_iff t p tests r tolerance).mpr ⟨f, hplan⟩
  exact ⟨_, generate_of_build hcode hbuild⟩

/-- The skeleton of a program and the starter are those of plans for the same shapes. -/
theorem exists_skeleton {tolerance : Binary64} {t : Target} {code : String} {p : Problem}
    {tests : List TestCase} {prog : Program}
    (h : generate .standard tolerance t code p tests = .ok prog) :
    ∃ f, Formats.ofProblem p = .ok f ∧
      prog.skeleton = (Plan.ofFormats t p.functionName f tests tolerance).starter ∧
      p.starter t =
        .ok (Plan.ofFormats t p.functionName f [] Settings.defaultTolerance).starter := by
  obtain ⟨-, plan, hbuild, rfl⟩ := exists_build h
  obtain ⟨f, hplan⟩ := Plan.is_built_of_build hbuild
  -- what makes a plan possible does so without tests, too
  have hstarter : ∃ first, Plan.build t p [] .standard Settings.defaultTolerance = .ok first := by
    obtain ⟨formats, hplannable⟩ :=
      (Plan.exists_build_iff t p tests .standard tolerance).mp ⟨plan, hbuild⟩
    refine (Plan.exists_build_iff _ _ _ _ _).mpr ⟨formats, ?_⟩
    exact { hplannable with tests := by simp }
  obtain ⟨first, hfirst⟩ := hstarter
  obtain ⟨g, hfirstPlan⟩ := Plan.is_built_of_build hfirst
  have hsame : f = g := by
    have hresolves := hplan.resolves
    rw [hfirstPlan.resolves] at hresolves
    cases hresolves
    rfl
  refine ⟨f, hplan.resolves, ?_, ?_⟩
  · rw [← hplan.eq_of_formats]
    rfl
  · rw [Problem.starter, hfirst, hfirstPlan.eq_of_formats, hsame]
    rfl

/-- A problem for which a program is generated has a starter, and the skeleton of the program is the
starter exactly if no native type depends on the tests. -/
theorem skeleton_eq_starter_iff {tolerance : Binary64} {t : Target} {code : String} {p : Problem}
    {tests : List TestCase} {prog : Program}
    (h : generate .standard tolerance t code p tests = .ok prog) :
    ∃ f s, Formats.ofProblem p = .ok f ∧ p.starter t = .ok s ∧
      (prog.skeleton = s ↔ f.IgnoresTests t tests) := by
  obtain ⟨f, hf, hskeleton, hstarter⟩ := exists_skeleton h
  refine ⟨f, _, hf, hstarter, ?_⟩
  rw [hskeleton]
  exact Plan.starter_of_formats_iff t p.functionName f tests tolerance _

/-- Element types that name scalar types fix the signature, whatever the tests. -/
theorem skeleton_eq_starter_of_named_elements :
    let p := ((Problem.named "mean").withParam "xs" "array<int>").withReturn "double"
    let tests : List TestCase := [⟨.nat 1, [.array [.nat 1, .nat 2]], .nat 1⟩]
    ∃ prog s, generate .standard Settings.defaultTolerance .java "class Solution \x7b \x7d" p
      tests = .ok prog ∧ p.starter .java = .ok s ∧ prog.skeleton = s := by
  intro p tests
  have hresolves : Formats.ofProblem p = .ok
      ⟨[⟨.array, some "int", "json_array", some 0, some "xs", none⟩],
        ⟨.primitive, some "double", "primitive", none, none, none⟩⟩ := by cbv
  have hplannable : Plan.Plannable .java p tests .standard _ :=
    ⟨hresolves, by decide, List.forall_mem_singleton.mpr rfl,
      List.forall_mem_singleton.mpr ⟨_, rfl, by decide⟩, ⟨_, rfl, by decide⟩, ⟨_, rfl, by decide⟩⟩
  have hcode : Text.isBlankText "class Solution \x7b \x7d" = false := by decide
  obtain ⟨prog, hprog⟩ := exists_generate Settings.defaultTolerance hcode hplannable
  obtain ⟨f, s, hf, hs, hiff⟩ := skeleton_eq_starter_iff hprog
  have hfixed : ∀ spec ∈ f.all, spec.FixesType := by
    rw [hresolves] at hf
    cases hf
    intro spec hspec
    left
    fin_cases hspec <;> decide
  exact ⟨prog, s, hprog, hs, hiff.mpr (Formats.ignores_tests_of_fixed hfixed _ _)⟩

/-- A result of which nothing is known is an integer in the starter, and what the test shows in the
skeleton. -/
theorem skeleton_ne_starter_of_float_result :
    let p := Problem.named "half"
    let tests : List TestCase := [⟨.nat 1, [], .number (.float (.ofDecimal false 5 (-1)))⟩]
    ∃ prog s, generate .standard Settings.defaultTolerance .cpp
      "class Solution \x7b public: double half() \x7b return 0.5; \x7d \x7d;" p tests = .ok prog ∧
        p.starter .cpp = .ok s ∧ prog.skeleton ≠ s := by
  intro p tests
  have hresolves : Formats.ofProblem p = .ok ⟨[], .ofBaseType .primitive⟩ := rfl
  have hplannable : Plan.Plannable .cpp p tests .standard _ :=
    ⟨hresolves, by decide, List.forall_mem_singleton.mpr rfl, List.forall_mem_nil _,
      ⟨_, rfl, by decide⟩, ⟨_, rfl, by decide⟩⟩
  have hcode : Text.isBlankText
      "class Solution \x7b public: double half() \x7b return 0.5; \x7d \x7d;" = false := by decide
  obtain ⟨prog, hprog⟩ := exists_generate Settings.defaultTolerance hcode hplannable
  obtain ⟨f, hf, hskeleton, hstarter⟩ := exists_skeleton hprog
  refine ⟨prog, _, hprog, hstarter, ?_⟩
  rw [hskeleton, Ne, Plan.starter_of_formats_iff]
  intro hignores
  have houtput := hignores.output
  rw [hresolves] at hf
  cases hf
  exact absurd houtput (by decide)

end Program

end CodeJudge
