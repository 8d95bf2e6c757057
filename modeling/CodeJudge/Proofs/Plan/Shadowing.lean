import CodeJudge.Proofs.Plan.Variables
import CodeJudge.Proofs.Strategy.Expression
/-!
Shadowing. The programs that read their tests at run time bind the inputs in the scope in which the
builders of later inputs are looked up. A parameter is given a variable with its own name even if
that is the name of a builder.
-/
namespace CodeJudge

namespace VariableName

/-- A usable name that no place makes up is the name of a variable only if the parameter has it. -/
theorem of_param_eq_usable_iff {name : Option String} {index : Nat} {usable : String}
    (hplain : isPlain usable.toList = true) (hfree : usable ∉ reserved)
    (hmade : usable.toList.head? ≠ some 'a') :
    ofParam name index = usable ↔ name.map Text.trim = some usable := by
  have hkept : (isPlain usable.toList && !reserved.contains usable) = true := by
    simp [hplain, hfree]
  rw [of_param_eq]
  constructor
  · intro h
    cases hname : kept? name with
    | none =>
      rw [hname, Option.getD_none] at h
      -- a name that is made up begins with `arg`
      have hhead : (ofIndex index).toList.head? = some 'a' := by simp [ofIndex]
      rw [h] at hhead
      exact absurd hhead hmade
    | some kept =>
      rw [hname, Option.getD_some] at h
      obtain ⟨raw, rfl, hraw⟩ := exists_of_kept hname
      rw [Option.map_some, hraw, h]
  · intro h
    rw [kept?, h, Option.filter_some, if_pos hkept, Option.getD_some]

theorem of_param_ne_inputs (name : Option String) (index : Nat) (t : ScriptTarget) :
    ofParam name index ≠ t.inputs := by
  intro h
  -- the variable that holds the inputs begins with an underscore
  have hplain := is_plain_of_param name index
  rw [h] at hplain
  cases t <;> exact absurd hplain (by decide)

theorem of_param_eq_builder_iff {name : Option String} {index : Nat} {b : BaseType}
    {t : ScriptTarget} :
    b.builder? t = some (ofParam name index) ↔
      ∃ raw, name = some raw ∧ b.builder? t = some (Text.trim raw) := by
  have husable {builder : String} (hb : b.builder? t = some builder) :
      ofParam name index = builder ↔ name.map Text.trim = some builder := by
    apply of_param_eq_usable_iff
    all_goals cases b <;> cases t <;> cases hb <;> decide
  cases hb : b.builder? t with
  | none => simp
  | some builder =>
    rw [Option.some.injEq, eq_comm, husable hb, Option.map_eq_some_iff]
    simp [eq_comm]

end VariableName

/-- No parameter has the name of a builder that some parameter needs. -/
def Formats.AvoidsBuilders (f : Formats) (t : ScriptTarget) : Prop :=
  ∀ spec ∈ f.inputs, ∀ name ∈ spec.paramName, ∀ other ∈ f.inputs,
    other.baseType.builder? t ≠ some (Text.trim name)

namespace Plan

/-- The statements of a program that bind the inputs. -/
def assignments (p : Plan) (t : ScriptTarget) : List Assignment :=
  (numberedFrom 0 p.params).map fun (index, param) =>
    (param.site index none).assignment t param.parsing.shape

theorem parse_fragments_script {p : Plan} {t : ScriptTarget} (h : p.target = t.target) :
    p.parseFragments none = (p.assignments t).map fun a => a.text t := by
  rw [parseFragments, assignments, List.map_map, h]
  apply List.map_congr_left
  rintro ⟨index, param⟩ -
  exact BaseType.parse_fragment_script _ _ t

/-- No statement binds a name that one of them reads. -/
def ShadowsNothing (p : Plan) (t : ScriptTarget) : Prop :=
  ∀ a ∈ p.assignments t, ∀ other ∈ p.assignments t, a.variableName ∉ other.value.free

theorem mem_assignments_of_formats {t : ScriptTarget} {target : Target} {functionName : String}
    {f : Formats} {tests : List TestCase} {tolerance : Binary64} {a : Assignment} :
    a ∈ (ofFormats target functionName f tests tolerance).assignments t ↔
      ∃ (i : Nat) (spec : FormatSpec), f.inputs[i]? = some spec ∧
        a = ⟨VariableName.ofParam spec.paramName i,
          spec.baseType.building t (.item (.name t.inputs) i)⟩ := by
  have hplace (i : Nat) :
      ((ofFormats target functionName f tests tolerance).assignments t)[i]? =
        f.inputs[i]?.map fun spec => ⟨VariableName.ofParam spec.paramName i,
          spec.baseType.building t (.item (.name t.inputs) i)⟩ := by
    rw [assignments, List.getElem?_map, getElem?_numbered_from, ofFormats, List.getElem?_map,
      getElem?_numbered_from, Option.map_map, Option.map_map, Option.map_map, Nat.zero_add]
    rfl
  rw [List.mem_iff_getElem?]
  constructor
  · rintro ⟨i, hi⟩
    rw [hplace, Option.map_eq_some_iff] at hi
    obtain ⟨spec, hspec, rfl⟩ := hi
    exact ⟨i, spec, hspec, rfl⟩
  · rintro ⟨i, spec, hspec, rfl⟩
    exact ⟨i, by rw [hplace, hspec, Option.map_some]⟩

theorem shadows_nothing_of_formats_iff {t : ScriptTarget} {target : Target}
    {functionName : String} {f : Formats} {tests : List TestCase} {tolerance : Binary64} :
    (ofFormats target functionName f tests tolerance).ShadowsNothing t ↔ f.AvoidsBuilders t := by
  constructor
  · intro h spec hspec name hname other hother hbuilder
    obtain ⟨i, hi⟩ := List.mem_iff_getElem?.mp hspec
    obtain ⟨j, hj⟩ := List.mem_iff_getElem?.mp hother
    refine h _ (mem_assignments_of_formats.mpr ⟨i, spec, hi, rfl⟩) _
      (mem_assignments_of_formats.mpr ⟨j, other, hj, rfl⟩) ?_
    rw [BaseType.mem_free_building]
    exact .inr (VariableName.of_param_eq_builder_iff.mpr ⟨name, hname, hbuilder⟩)
  · intro h a ha b hb hread
    obtain ⟨i, spec, hspec, rfl⟩ := mem_assignments_of_formats.mp ha
    obtain ⟨j, other, hother, rfl⟩ := mem_assignments_of_formats.mp hb
    rcases BaseType.mem_free_building.mp hread with hinputs | hbuilder
    · -- a flat form reads nothing but the inputs
      exact VariableName.of_param_ne_inputs _ _ t (List.mem_singleton.mp hinputs)
    · obtain ⟨name, hname, htrim⟩ := VariableName.of_param_eq_builder_iff.mp hbuilder
      exact h spec (List.mem_of_getElem? hspec) name hname other (List.mem_of_getElem? hother) htrim

/-- The statements that bind the inputs read no variable that one of them binds exactly if no
parameter has the name of a builder that is needed. -/
theorem shadows_nothing_iff {t : ScriptTarget} {p : Problem} {tests : List TestCase}
    {tolerance : Binary64} {plan : Plan} {f : Formats}
    (hbuild : build t.target p tests .standard tolerance = .ok plan)
    (hresolves : Formats.ofProblem p = .ok f) :
    plan.parseFragments none = ((plan.assignments t).map fun a => a.text t) ∧
      (plan.assignments t).map (·.variableName) = plan.params.map (·.variableName) ∧
      (plan.ShadowsNothing t ↔ f.AvoidsBuilders t) := by
  have hplan : plan = ofFormats t.target p.functionName f tests tolerance :=
    (is_built_of_resolves hbuild hresolves).eq_of_formats
  refine ⟨?_, ?_, ?_⟩
  · exact parse_fragments_script (by rw [hplan]; rfl)
  · apply List.ext_getElem?
    intro i
    rw [assignments, List.map_map, List.getElem?_map, getElem?_numbered_from, List.getElem?_map,
      Option.map_map]
    rfl
  · rw [hplan]
    exact shadows_nothing_of_formats_iff

/-- A sum of an array can be planned, whatever the array is called. -/
theorem plannable_of_array_name (t : Target) (name : String) :
    let p := ((Problem.named "total").withParam name "array<int>").withReturn "int"
    Plannable t p [⟨.nat 1, [.array [.nat 1, .nat 2]], .nat 3⟩] .standard
      ⟨[⟨.array, some "int", "json_array", some 0, some name, none⟩],
        ⟨.primitive, some "int", "primitive", none, none, none⟩⟩ := by
  intro p
  exact plannable_standard (by cbv) (.inr rfl) (List.forall_mem_singleton.mpr rfl)

theorem shadows_nothing_of_nums :
    let p := ((Problem.named "total").withParam "nums" "array<int>").withReturn "int"
    let tests : List TestCase := [⟨.nat 1, [.array [.nat 1, .nat 2]], .nat 3⟩]
    ∃ f plan, build ScriptTarget.python.target p tests .standard Settings.defaultTolerance =
        .ok plan ∧ Formats.ofProblem p = .ok f ∧ plan.ShadowsNothing .python := by
  intro p tests
  have hplannable := plannable_of_array_name .python "nums"
  obtain ⟨plan, hbuild⟩ :=
    (exists_build_iff .python p tests .standard Settings.defaultTolerance).mpr ⟨_, hplannable⟩
  obtain ⟨-, -, hiff⟩ := shadows_nothing_iff (t := .python) hbuild hplannable.resolves
  refine ⟨_, plan, hbuild, hplannable.resolves, hiff.mpr ?_⟩
  intro spec hspec name hname other hother
  obtain rfl := List.mem_singleton.mp hspec
  obtain rfl := List.mem_singleton.mp hother
  cases hname
  decide

/-- An array that is called `list` takes the place of what copies it. -/
theorem shadows_builder_of_list :
    let p := ((Problem.named "total").withParam "list" "array<int>").withReturn "int"
    let tests : List TestCase := [⟨.nat 1, [.array [.nat 1, .nat 2]], .nat 3⟩]
    ∃ plan, build ScriptTarget.python.target p tests .standard Settings.defaultTolerance =
        .ok plan ∧ plan.parseFragments none = ["list = list(_inputs[0])"] ∧
      plan.assignments .python =
        [⟨"list", .call (.name "list") (.item (.name "_inputs") 0)⟩] ∧
      ¬ plan.ShadowsNothing .python := by
  intro p tests
  have hplannable := plannable_of_array_name .python "list"
  obtain ⟨plan, hbuild⟩ :=
    (exists_build_iff .python p tests .standard Settings.defaultTolerance).mpr ⟨_, hplannable⟩
  have hassignments : plan.assignments .python =
      [⟨"list", .call (.name "list") (.item (.name "_inputs") 0)⟩] := by
    rw [(is_built_of_resolves hbuild hplannable.resolves).eq_of_formats]
    decide
  refine ⟨plan, hbuild, ?_, hassignments, ?_⟩
  · rw [parse_fragments_script (t := .python) (target_of_build hbuild), hassignments]
    decide
  · rw [ShadowsNothing, hassignments]
    decide

end Plan

end CodeJudge
