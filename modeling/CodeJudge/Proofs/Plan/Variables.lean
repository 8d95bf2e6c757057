import CodeJudge.Proofs.Plan.Names
/-!
Distinct variables. The names that are kept differ if the names of the parameters do, and the names
that places make up differ among each other. But a name is made up without a look at the kept ones,
so a parameter that is called `arg1` meets the name of an unusable one at the second place.
-/
namespace CodeJudge

namespace VariableName

/-- The name that a variable keeps from its parameter, if every target can use it. -/
def kept? (name : Option String) : Option String :=
  (name.map Text.trim).filter fun kept => isPlain kept.toList && !reserved.contains kept

theorem of_param_eq (name : Option String) (index : Nat) :
    ofParam name index = (kept? name).getD (ofIndex index) := by
  cases name with
  | none => rfl
  | some name =>
    rw [ofParam, kept?, Option.map_some, Option.filter_some]
    split_ifs <;> rfl

theorem exists_of_kept {name : Option String} {kept : String} (h : kept? name = some kept) :
    ∃ raw, name = some raw ∧ Text.trim raw = kept := by
  rw [kept?, Option.filter_eq_some_iff] at h
  exact Option.map_eq_some_iff.mp h.1

theorem of_index_injective : Function.Injective ofIndex := by
  intro i j h
  have htexts : toString i = toString j := (String.append_right_inj "arg").mp h
  rw [Nat.toString_eq_ofList_toDigits, Nat.toString_eq_ofList_toDigits] at htexts
  have hdigits : Nat.toDigits 10 i = Nat.toDigits 10 j := String.ofList_injective htexts
  -- the digits of a place can be read back
  have hread := congrArg (fun ds => Nat.ofDigitChars 10 ds 0) hdigits
  simpa using hread

/-- Parameters with different names share a variable only if one of them keeps the name that is
made up for the other. -/
theorem kept_of_shared {name other : Option String} {i j : Nat} (hplaces : i ≠ j)
    (hnames : ∀ raw ∈ name, ∀ second ∈ other, Text.trim raw ≠ Text.trim second)
    (hshared : ofParam name i = ofParam other j) :
    (kept? name = some (ofIndex j) ∧ kept? other = none) ∨
      (kept? other = some (ofIndex i) ∧ kept? name = none) := by
  rw [of_param_eq, of_param_eq] at hshared
  cases hname : kept? name with
  | none =>
    rw [hname, Option.getD_none] at hshared
    cases hother : kept? other with
    | none =>
      -- both are made up, and the places differ
      rw [hother, Option.getD_none] at hshared
      exact absurd (of_index_injective hshared) hplaces
    | some second =>
      rw [hother, Option.getD_some] at hshared
      exact .inr ⟨congrArg some hshared.symm, rfl⟩
  | some kept =>
    rw [hname, Option.getD_some] at hshared
    cases hother : kept? other with
    | none =>
      rw [hother, Option.getD_none] at hshared
      exact .inl ⟨congrArg some hshared, rfl⟩
    | some second =>
      -- both are kept, and the names of the parameters differ
      rw [hother, Option.getD_some] at hshared
      obtain ⟨raw, hraw, hkept⟩ := exists_of_kept hname
      obtain ⟨rawOther, hrawOther, hsecond⟩ := exists_of_kept hother
      exact absurd (hkept.trans (hshared.trans hsecond.symm)) (hnames raw hraw rawOther hrawOther)

end VariableName

namespace Formats

/-- The parameters that have names have different ones, white space around them aside. -/
def NamesDiffer (f : Formats) : Prop :=
  f.inputs.Pairwise fun spec other =>
    ∀ name ∈ spec.paramName, ∀ second ∈ other.paramName, Text.trim name ≠ Text.trim second

theorem names_differ_pair {spec other output : FormatSpec}
    (h : ∀ name ∈ spec.paramName, ∀ second ∈ other.paramName, Text.trim name ≠ Text.trim second) :
    NamesDiffer ⟨[spec, other], output⟩ :=
  List.pairwise_pair.mpr h

/-- No parameter keeps a name that the place of another one makes up. -/
def KeepsNoMadeUp (f : Formats) : Prop :=
  ∀ (i j : Nat) (spec other : FormatSpec), f.inputs[i]? = some spec → f.inputs[j]? = some other →
    VariableName.kept? other.paramName = none →
      VariableName.kept? spec.paramName ≠ some (VariableName.ofIndex j)

end Formats

namespace Plan

theorem variable_at_of_plan_params {r : Registry} {t : Target} {tests : List TestCase}
    {first : Nat} {specs : List FormatSpec} {params : List PlannedParam}
    (h : planParams r t tests first specs = .ok params) (i : Nat) :
    (params.map (·.variableName))[i]? =
      specs[i]?.map fun spec => VariableName.ofParam spec.paramName (first + i) := by
  induction specs generalizing first params i with
  | nil =>
    cases h
    rfl
  | cons spec specs ih =>
    rw [planParams] at h
    split at h
    · cases h
    · split at h
      · cases h
      next rest hrest =>
        cases h
        cases i with
        | zero => rfl
        | succ i =>
          rw [List.map_cons, List.getElem?_cons_succ, List.getElem?_cons_succ, ih hrest,
            Nat.add_right_comm, Nat.add_assoc]

theorem IsBuiltFrom.variable_at {t : Target} {p : Problem} {tests : List TestCase} {r : Registry}
    {tolerance : Binary64} {f : Formats} {plan : Plan}
    (h : plan.IsBuiltFrom t p tests r tolerance f) (i : Nat) :
    (plan.params.map (·.variableName))[i]? =
      f.inputs[i]?.map fun spec => VariableName.ofParam spec.paramName i := by
  rw [variable_at_of_plan_params h.params i, Nat.zero_add]

/-- Parameters with different names have different variables exactly if none of them keeps a name
that is made up for another one. -/
theorem nodup_variables_iff {t : Target} {p : Problem} {tests : List TestCase} {r : Registry}
    {tolerance : Binary64} {plan : Plan} {f : Formats}
    (hbuild : build t p tests r tolerance = .ok plan) (hresolves : Formats.ofProblem p = .ok f)
    (hnames : f.NamesDiffer) :
    (plan.params.map (·.variableName)).Nodup ↔ f.KeepsNoMadeUp := by
  have hbuilt := is_built_of_resolves hbuild hresolves
  have hlength : (plan.params.map (·.variableName)).length = f.inputs.length := by
    rw [← plan_params_specs hbuilt.params, List.length_map, List.length_map]
  constructor
  · intro hnodup i j spec other hspec hother hmade hkept
    have hi : i < (plan.params.map (·.variableName)).length := by
      rw [hlength]
      exact (List.getElem?_eq_some_iff.mp hspec).1
    have hshared : (plan.params.map (·.variableName))[i]? =
        (plan.params.map (·.variableName))[j]? := by
      rw [hbuilt.variable_at, hbuilt.variable_at, hspec, hother, Option.map_some, Option.map_some,
        VariableName.of_param_eq, VariableName.of_param_eq, hkept, hmade]
      rfl
    -- it is one parameter, which cannot both keep its name and not
    obtain rfl : i = j := (List.getElem?_inj hi hnodup).mp hshared
    rw [hspec] at hother
    cases hother
    rw [hmade] at hkept
    cases hkept
  · intro hkeeps
    rw [List.nodup_iff_getElem?_ne_getElem?, hlength]
    intro i j hij hj heq
    -- a shared name is kept on one side and made up on the other
    have hspec : f.inputs[i]? = some f.inputs[i] := List.getElem?_eq_getElem (hij.trans hj)
    have hother : f.inputs[j]? = some f.inputs[j] := List.getElem?_eq_getElem hj
    have hdiffer := List.pairwise_iff_getElem.mp hnames i j (hij.trans hj) hj hij
    rw [hbuilt.variable_at, hbuilt.variable_at, hspec, hother, Option.map_some,
      Option.map_some] at heq
    rcases VariableName.kept_of_shared (Nat.ne_of_lt hij) hdiffer (Option.some.inj heq) with
      ⟨hkept, hmade⟩ | ⟨hkept, hmade⟩
    · exact hkeeps i j _ _ hspec hother hmade hkept
    · exact hkeeps j i _ _ hother hspec hmade hkept

/-- Two integers under any names can be planned. -/
theorem plannable_of_two_names (t : Target) (first second : String) :
    let p := (((Problem.named "pick").withParam first "int").withParam second "int").withReturn
      "int"
    Plannable t p [⟨.nat 1, [.nat 5, .nat 6], .nat 5⟩] .standard
      ⟨[⟨.primitive, some "int", "primitive", some 0, some first, none⟩,
          ⟨.primitive, some "int", "primitive", some 1, some second, none⟩],
        ⟨.primitive, some "int", "primitive", none, none, none⟩⟩ := by
  intro p
  exact plannable_standard (by cbv) (.inr rfl) (List.forall_mem_singleton.mpr rfl)

/-- A name that is made up for a place is kept at another one, and not made up again. -/
theorem nodup_variables_of_shifted_name :
    let p := (((Problem.named "pick").withParam "arg2" "int").withParam "class" "int").withReturn
      "int"
    let tests : List TestCase := [⟨.nat 1, [.nat 5, .nat 6], .nat 5⟩]
    ∃ f plan, build .python p tests .standard Settings.defaultTolerance = .ok plan ∧
      Formats.ofProblem p = .ok f ∧ f.NamesDiffer ∧ f.KeepsNoMadeUp ∧
      (plan.params.map (·.variableName)).Nodup := by
  intro p tests
  have hplannable := plannable_of_two_names .python "arg2" "class"
  obtain ⟨plan, hbuild⟩ :=
    (exists_build_iff .python p tests .standard Settings.defaultTolerance).mpr ⟨_, hplannable⟩
  refine ⟨_, plan, hbuild, hplannable.resolves, ?names, ?keeps,
    (nodup_variables_iff hbuild hplannable.resolves ?names).mpr ?keeps⟩
  case names =>
    apply Formats.names_differ_pair
    rintro _ ⟨⟩ _ ⟨⟩
    decide
  case keeps =>
    rintro i (_ | _ | j) spec other hspec hother hmade
    · cases hother
      exact absurd hmade (by decide)
    · obtain _ | _ | i := i
      · cases hspec
        decide
      · cases hspec
        decide
      · cases hspec
    · cases hother

/-- The second parameter cannot be called `class`, and the name that is made up for it is the one
of the first. One assignment undoes the other, and the second input is passed for both. -/
theorem variables_clash_of_made_up_name :
    let p := (((Problem.named "pick").withParam "arg1" "int").withParam "class" "int").withReturn
      "int"
    let tests : List TestCase := [⟨.nat 1, [.nat 5, .nat 6], .nat 5⟩]
    ∃ f plan, build .python p tests .standard Settings.defaultTolerance = .ok plan ∧
      Formats.ofProblem p = .ok f ∧ f.NamesDiffer ∧
      ¬ (plan.params.map (·.variableName)).Nodup ∧
      plan.parseFragments none = ["arg1 = _inputs[0]", "arg1 = _inputs[1]"] ∧
      plan.argumentList = "arg1, arg1" := by
  intro p tests
  have hplannable := plannable_of_two_names .python "arg1" "class"
  obtain ⟨plan, hbuild⟩ :=
    (exists_build_iff .python p tests .standard Settings.defaultTolerance).mpr ⟨_, hplannable⟩
  have hbuilt := is_built_of_resolves hbuild hplannable.resolves
  refine ⟨_, plan, hbuild, hplannable.resolves, ?_, ?_, ?_, ?_⟩
  · apply Formats.names_differ_pair
    rintro _ ⟨⟩ _ ⟨⟩
    decide
  · rw [hbuilt.eq_of_formats]
    decide
  · rw [hbuilt.eq_of_formats]
    decide
  · rw [hbuilt.eq_of_formats]
    decide

end Plan

end CodeJudge
