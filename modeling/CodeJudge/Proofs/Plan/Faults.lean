import CodeJudge.Plan.Basic
import CodeJudge.Proofs.Problem.Places
import CodeJudge.Proofs.Registry.Support
import CodeJudge.Settings
/-!
Faults of a plan. All that may be wrong with a problem, its tests and a registry is listed in the
order of the checks. A plan is built exactly if the list is empty, and otherwise its first fault is
reported.
-/
namespace CodeJudge.Plan

/-! What a plan that is built consists of. -/

/-- The plan is put together from the shapes of the problem. -/
structure IsBuiltFrom (t : Target) (p : Problem) (tests : List TestCase) (r : Registry)
    (tolerance : Binary64) (formats : Formats) (plan : Plan) : Prop where
  resolves : Formats.ofProblem p = .ok formats
  arity : arityFault? p tests formats.inputs.length = none
  params : planParams r t tests 0 formats.inputs = .ok plan.params
  output : planOutput r t tests formats.output = .ok plan.output
  target : plan.target = t
  functionName : plan.functionName = p.functionName
  tolerance : plan.tolerance = tolerance

theorem is_built_of_build {t : Target} {p : Problem} {tests : List TestCase} {r : Registry}
    {tolerance : Binary64} {plan : Plan} (h : build t p tests r tolerance = .ok plan) :
    ∃ formats, plan.IsBuiltFrom t p tests r tolerance formats := by
  rw [build] at h
  split at h
  · cases h
  next formats hformats =>
  split at h
  · cases h
  next harity =>
  split at h
  · cases h
  next params hparams =>
  split at h
  · cases h
  next output houtput =>
  cases h
  exact ⟨formats, hformats, harity, hparams, houtput, rfl, rfl, rfl⟩

theorem is_built_of_resolves {t : Target} {p : Problem} {tests : List TestCase} {r : Registry}
    {tolerance : Binary64} {plan : Plan} {f : Formats}
    (hbuild : build t p tests r tolerance = .ok plan) (hresolves : Formats.ofProblem p = .ok f) :
    plan.IsBuiltFrom t p tests r tolerance f := by
  obtain ⟨formats, hbuilt⟩ := is_built_of_build hbuild
  have hsame := hbuilt.resolves
  rw [hresolves] at hsame
  cases hsame
  exact hbuilt

theorem plan_params_specs {r : Registry} {t : Target} {tests : List TestCase} {first : Nat}
    {specs : List FormatSpec} {params : List PlannedParam}
    (h : planParams r t tests first specs = .ok params) : params.map (·.spec) = specs := by
  induction specs generalizing first params with
  | nil =>
    cases h
    rfl
  | cons spec specs ih =>
    rw [planParams] at h
    split at h
    · cases h
    · split at h
      · cases h
      next rest hrest =>
        cases h
        rw [List.map_cons, ih hrest]

theorem plan_output_spec {r : Registry} {t : Target} {tests : List TestCase} {spec : FormatSpec}
    {output : PlannedOutput} (h : planOutput r t tests spec = .ok output) : output.spec = spec := by
  rw [planOutput] at h
  split at h
  · cases h
  · split at h
    · cases h
    · cases h
      rfl

/-! The faults in order. -/

/-- The faults of the numbers of parameters and inputs. -/
def arityFaults (p : Problem) (tests : List TestCase) (arity : Nat) : List PlanError :=
  (if p.params = [] ∨ p.params.length = arity then []
    else [.signatureArity p.params.length arity])
  ++ (tests.filter fun test => test.input.length ≠ arity).map (.testArity · arity)

def paramFaults (r : Registry) (t : Target) (specs : List FormatSpec) : List PlanError :=
  specs.filterMap fun spec => (r.gap? .parsing spec.baseType t).map .strategy

def outputFaults (r : Registry) (t : Target) (spec : FormatSpec) : List PlanError :=
  [Role.serialization, Role.parsing].filterMap fun role =>
    (r.gap? role spec.baseType t).map .strategy

/-- All that is wrong, in the order in which it is checked. Without shapes nothing else can be. -/
def faults (t : Target) (p : Problem) (tests : List TestCase) (r : Registry) : List PlanError :=
  match Formats.ofProblem p with
  | .error e => [.format e]
  | .ok f =>
    arityFaults p tests f.inputs.length ++ paramFaults r t f.inputs ++ outputFaults r t f.output

/-- A step that looks for faults succeeds if there are none and else reports the first of them. -/
def Reports {α : Type} (result : Except PlanError α) (found : List PlanError) : Prop :=
  match result with
  | .ok _ => found = []
  | .error e => found.head? = some e

section

variable {α : Type} {result : Except PlanError α} {found : List PlanError}

theorem Reports.exists_ok_iff (h : Reports result found) : (∃ a, result = .ok a) ↔ found = [] := by
  cases result with
  | ok a =>
    have hnil : found = [] := h
    simp [hnil]
  | error e =>
    have hhead : found.head? = some e := h
    have hne : found ≠ [] := by
      intro hnil
      rw [hnil] at hhead
      cases hhead
    simp [hne]

theorem Reports.error_iff (h : Reports result found) (e : PlanError) :
    result = .error e ↔ found.head? = some e := by
  cases result with
  | ok a =>
    have hnil : found = [] := h
    simp [hnil]
  | error first =>
    have hhead : found.head? = some first := h
    simp [hhead]

end

theorem arity_fault_eq (p : Problem) (tests : List TestCase) (arity : Nat) :
    arityFault? p tests arity = (arityFaults p tests arity).head? := by
  have htests : ((tests.filter fun test => test.input.length ≠ arity).map
      (PlanError.testArity · arity)).head? =
        (tests.find? fun test => test.input.length != arity).map (PlanError.testArity · arity) := by
    rw [List.head?_map, List.head?_filter]
    congr 2
    funext test
    exact Bool.eq_iff_iff.mpr (by simp)
  rw [arityFault?, arityFaults]
  by_cases hp : p.params = [] ∨ p.params.length = arity
  · rw [if_pos hp, List.nil_append, htests, if_neg]
    rcases hp with hp | hp <;> simp [hp]
  · rw [if_neg hp]
    push Not at hp
    rw [if_pos (by simp [hp])]
    rfl

theorem plan_params_reports (r : Registry) (t : Target) (tests : List TestCase) (first : Nat)
    (specs : List FormatSpec) :
    Reports (planParams r t tests first specs) (paramFaults r t specs) := by
  induction specs generalizing first with
  | nil => rfl
  | cons spec specs ih =>
    have hrest := ih (first + 1)
    rw [planParams, paramFaults, List.filterMap_cons]
    -- a fault of the first parameter hides those of the others
    rcases r.strategy_for_cases .parsing spec.baseType t with ⟨s, hs, hgap⟩ | ⟨e, he, hgap⟩
    · rw [hs, hgap]
      dsimp only [Option.map_none]
      cases hp : planParams r t tests (first + 1) specs with
      | error e =>
        rw [hp] at hrest
        exact hrest
      | ok params =>
        rw [hp] at hrest
        exact hrest
    · rw [he, hgap]
      rfl

theorem plan_output_reports (r : Registry) (t : Target) (tests : List TestCase)
    (spec : FormatSpec) : Reports (planOutput r t tests spec) (outputFaults r t spec) := by
  rw [planOutput, outputFaults, List.filterMap_cons, List.filterMap_cons, List.filterMap_nil]
  rcases r.strategy_for_cases .serialization spec.baseType t with ⟨s, hs, hgap⟩ | ⟨e, he, hgap⟩
  · rw [hs, hgap]
    rcases r.strategy_for_cases .parsing spec.baseType t with ⟨q, hq, hgap⟩ | ⟨e, he, hgap⟩
    · rw [hq, hgap]
      rfl
    · rw [he, hgap]
      rfl
  · rw [he, hgap]
    rfl

theorem build_reports (t : Target) (p : Problem) (tests : List TestCase) (r : Registry)
    (tolerance : Binary64) : Reports (build t p tests r tolerance) (faults t p tests r) := by
  rw [build, faults]
  cases Formats.ofProblem p with
  | error e => rfl
  | ok f =>
    dsimp only
    rw [arity_fault_eq]
    have hparams := plan_params_reports r t tests 0 f.inputs
    have houtput := plan_output_reports r t tests f.output
    cases harity : arityFaults p tests f.inputs.length with
    | cons e rest => rfl
    | nil =>
      -- the numbers agree; what is left is looked up in order
      dsimp only [List.head?_nil]
      cases hp : planParams r t tests 0 f.inputs with
      | error e =>
        rw [hp] at hparams
        have hhead : (paramFaults r t f.inputs).head? = some e := hparams
        rw [List.nil_append]
        exact (List.head?_append.trans (by rw [hhead]; rfl) :
          (paramFaults r t f.inputs ++ outputFaults r t f.output).head? = some e)
      | ok params =>
        rw [hp] at hparams
        have hnone : paramFaults r t f.inputs = [] := hparams
        rw [hnone]
        cases ho : planOutput r t tests f.output with
        | error e =>
          rw [ho] at houtput
          exact houtput
        | ok output =>
          rw [ho] at houtput
          exact houtput

/-- The conditions under which a plan is built. -/
structure Plannable (t : Target) (p : Problem) (tests : List TestCase) (r : Registry)
    (formats : Formats) : Prop where
  resolves : Formats.ofProblem p = .ok formats
  signature : p.params = [] ∨ p.params.length = formats.inputs.length
  tests : ∀ test ∈ tests, test.input.length = formats.inputs.length
  parameters : ∀ spec ∈ formats.inputs, r.Supports .parsing spec.baseType t
  serialization : r.Supports .serialization formats.output.baseType t
  parsing : r.Supports .parsing formats.output.baseType t

theorem arity_faults_eq_nil_iff (p : Problem) (tests : List TestCase) (arity : Nat) :
    arityFaults p tests arity = [] ↔
      (p.params = [] ∨ p.params.length = arity) ∧ ∀ test ∈ tests, test.input.length = arity := by
  have htests : (tests.filter fun test => test.input.length ≠ arity) = [] ↔
      ∀ test ∈ tests, test.input.length = arity := by
    simp
  rw [arityFaults, List.append_eq_nil_iff, List.map_eq_nil_iff, htests]
  by_cases hp : p.params = [] ∨ p.params.length = arity
  · simp [hp]
  · simp [hp]

theorem param_faults_eq_nil_iff (r : Registry) (t : Target) (specs : List FormatSpec) :
    paramFaults r t specs = [] ↔ ∀ spec ∈ specs, r.Supports .parsing spec.baseType t := by
  simp [paramFaults, r.gap_eq_none_iff]

theorem output_faults_eq_nil_iff (r : Registry) (t : Target) (spec : FormatSpec) :
    outputFaults r t spec = [] ↔
      r.Supports .serialization spec.baseType t ∧ r.Supports .parsing spec.baseType t := by
  simp [outputFaults, r.gap_eq_none_iff]

theorem faults_eq_nil_iff (t : Target) (p : Problem) (tests : List TestCase) (r : Registry) :
    faults t p tests r = [] ↔ ∃ formats, Plannable t p tests r formats := by
  rw [faults]
  cases hf : Formats.ofProblem p with
  | error e =>
    constructor
    · intro h
      cases h
    · rintro ⟨formats, h⟩
      rw [h.resolves] at hf
      cases hf
  | ok f =>
    dsimp only
    rw [List.append_eq_nil_iff, List.append_eq_nil_iff, arity_faults_eq_nil_iff,
      param_faults_eq_nil_iff, output_faults_eq_nil_iff]
    constructor
    · rintro ⟨⟨⟨hsignature, htests⟩, hparams⟩, hserialization, hparsing⟩
      exact ⟨f, hf, hsignature, htests, hparams, hserialization, hparsing⟩
    · rintro ⟨formats, h⟩
      have hresolves := h.resolves
      rw [hf] at hresolves
      cases hresolves
      exact ⟨⟨⟨h.signature, h.tests⟩, h.parameters⟩, h.serialization, h.parsing⟩

theorem exists_build_iff (t : Target) (p : Problem) (tests : List TestCase) (r : Registry)
    (tolerance : Binary64) :
    (∃ plan, build t p tests r tolerance = .ok plan) ↔
      ∃ formats, Plannable t p tests r formats := by
  rw [← faults_eq_nil_iff]
  exact (build_reports t p tests r tolerance).exists_ok_iff

theorem gap_of_strategy_fault {t : Target} {p : Problem} {tests : List TestCase} {r : Registry}
    {e : RegistryError} (h : PlanError.strategy e ∈ faults t p tests r) :
    ∃ role b, r.gap? role b t = some e := by
  rw [faults] at h
  cases hf : Formats.ofProblem p with
  | error fe =>
    rw [hf] at h
    cases List.mem_singleton.mp h
  | ok f =>
    rw [hf] at h
    dsimp only at h
    -- only the faults of the parameters and of the output are about strategies
    rcases List.mem_append.mp h with h | h
    · rcases List.mem_append.mp h with h | h
      · rcases List.mem_append.mp h with h | h
        · split_ifs at h
          · cases h
          · cases List.mem_singleton.mp h
        · obtain ⟨test, -, he⟩ := List.mem_map.mp h
          cases he
      · obtain ⟨spec, -, he⟩ := List.mem_filterMap.mp h
        obtain ⟨g, hg, hge⟩ := Option.map_eq_some_iff.mp he
        cases hge
        exact ⟨.parsing, spec.baseType, hg⟩
    · obtain ⟨role, -, he⟩ := List.mem_filterMap.mp h
      obtain ⟨g, hg, hge⟩ := Option.map_eq_some_iff.mp he
      cases hge
      exact ⟨role, f.output.baseType, hg⟩

/-- The inputs of the tests of a plan reach to each of its parameters, and these stand at their
places. -/
theorem IsBuiltFrom.param_at {t : Target} {p : Problem} {tests : List TestCase} {r : Registry}
    {tolerance : Binary64} {formats : Formats} {plan : Plan}
    (h : plan.IsBuiltFrom t p tests r tolerance formats) (i : Nat) (hi : i < plan.params.length) :
    plan.params[i].spec.paramIndex = some i ∧ ∀ test ∈ tests, i < test.input.length := by
  have hspecs : plan.params.map (·.spec) = formats.inputs := plan_params_specs h.params
  have hplaced : Placed 0 formats.inputs := Formats.placed_inputs h.resolves
  constructor
  · have hplace : formats.inputs[i]? = some plan.params[i].spec := by
      rw [← hspecs, List.getElem?_map, List.getElem?_eq_getElem hi, Option.map_some]
    rw [hplaced i _ hplace, Nat.zero_add]
  · intro test htest
    have hnone : (arityFaults p tests formats.inputs.length).head? = none := by
      rw [← arity_fault_eq, h.arity]
    have hcounts := (arity_faults_eq_nil_iff _ _ _).mp (List.head?_eq_none_iff.mp hnone)
    rw [hcounts.2 test htest, ← hspecs, List.length_map]
    exact hi

/-- A plan is built exactly if the shapes resolve, the numbers agree and all strategies are there.
Otherwise the first fault is reported, and one of the strategies is a gap of the support matrix. A
plan has a parameter for each input and an output of the shapes that the problem resolves to, the
parameters are in order, and each test has an input for each of them. -/
theorem build_fails_fast (t : Target) (p : Problem) (tests : List TestCase) (r : Registry)
    (tolerance : Binary64) :
    ((∃ plan, build t p tests r tolerance = .ok plan) ↔
        ∃ formats, Plannable t p tests r formats) ∧
      (∀ e, build t p tests r tolerance = .error e ↔ (faults t p tests r).head? = some e) ∧
      (∀ e, build t p tests r tolerance = .error (.strategy e) →
        (∃ b, e.Names b t) ∧
          ∀ b u, e.Names b u → (b, u) ∈ (SupportMatrix.ofRegistry r).missing) ∧
      ∀ plan, build t p tests r tolerance = .ok plan →
        (∃ formats, Formats.ofProblem p = .ok formats ∧
          plan.params.map (·.spec) = formats.inputs ∧ plan.output.spec = formats.output) ∧
        ∀ (i : Nat) (hi : i < plan.params.length),
          plan.params[i].spec.paramIndex = some i ∧ ∀ test ∈ tests, i < test.input.length := by
  have herror := (build_reports t p tests r tolerance).error_iff
  refine ⟨exists_build_iff t p tests r tolerance, herror, ?_, ?_⟩
  · intro e he
    have hfault : PlanError.strategy e ∈ faults t p tests r :=
      List.mem_of_mem_head? ((herror _).mp he)
    obtain ⟨role, b, hgap⟩ := gap_of_strategy_fault hfault
    exact ⟨⟨b, Registry.names_of_gap hgap⟩, fun c u => SupportMatrix.missing_of_gap hgap⟩
  · intro plan hplan
    obtain ⟨formats, h⟩ := is_built_of_build hplan
    exact ⟨⟨formats, h.resolves, plan_params_specs h.params, plan_output_spec h.output⟩, h.param_at⟩

/-- The sum of an array has a plan, but not if only the strategies of scalars are registered. -/
theorem build_of_array_sum :
    let p := ((Problem.named "total").withParam "xs" "array<int>").withReturn "int"
    let tests : List TestCase := [⟨.nat 1, [.array []], .nat 0⟩]
    let r := Registry.empty.register .primitive (.builtIn .primitive) (.builtIn .primitive)
    (∃ plan, build .cpp p tests .standard Settings.defaultTolerance = .ok plan ∧
      plan.params.map (·.spec) = [⟨.array, some "int", "json_array", some 0, some "xs", none⟩]) ∧
      build .cpp p tests r Settings.defaultTolerance =
        .error (.strategy (.unknown .array .parsing)) ∧
      (.array, .cpp) ∈ (SupportMatrix.ofRegistry r).missing := by
  intro p tests r
  have hresolves : Formats.ofProblem p = .ok
      ⟨[⟨.array, some "int", "json_array", some 0, some "xs", none⟩],
        ⟨.primitive, some "int", "primitive", none, none, none⟩⟩ := by cbv
  have hplannable : ∃ formats, Plannable .cpp p tests .standard formats :=
    ⟨_, hresolves, by decide, List.forall_mem_singleton.mpr rfl,
      List.forall_mem_singleton.mpr ⟨_, rfl, by decide⟩, ⟨_, rfl, by decide⟩, ⟨_, rfl, by decide⟩⟩
  have hfault : (faults .cpp p tests r).head? = some (.strategy (.unknown .array .parsing)) := by
    rw [faults, hresolves]
    rfl
  obtain ⟨hplans, -, -, hshapes⟩ :=
    build_fails_fast .cpp p tests .standard Settings.defaultTolerance
  obtain ⟨-, herror, hstrategy, -⟩ := build_fails_fast .cpp p tests r Settings.defaultTolerance
  obtain ⟨plan, hplan⟩ := hplans.mpr hplannable
  obtain ⟨⟨formats, hformats, hparams, -⟩, -⟩ := hshapes plan hplan
  rw [hresolves] at hformats
  cases hformats
  have hbuild := (herror _).mpr hfault
  exact ⟨⟨plan, hplan, hparams⟩, hbuild, (hstrategy _ hbuild).2 _ _ rfl⟩

end CodeJudge.Plan
