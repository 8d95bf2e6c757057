import CodeJudge.Proofs.Format.Spec
import CodeJudge.Proofs.Json.Visible
import CodeJudge.Proofs.Problem.Places
/-!
Structured descriptions of resolved shapes. Type names resolve if their brackets can be counted, as
those of all but gigantic texts can. If none of them is blank, the shapes that they resolve to can
be written back as a structured description, which resolves to the same shapes whatever type names
still stand beside it.
-/
namespace CodeJudge

namespace Problem

/-! The type names that a problem uses. -/

/-- The names in a list of type names; items that are no strings have none. -/
def inputNamesIn (d : Description) : List String :=
  match d.decode with
  | .array items => items.filterMap fun | .string name => some name | _ => none
  | .string text => TypeName.listed text
  | _ => []

/-- The name of an output, if it has one. -/
def outputNamesIn (d : Description) : List String :=
  match d.decode with
  | .string name => [name]
  | .array (.string name :: _) => [name]
  | _ => []

/-- The names that describe the inputs; the signature counts only if nothing else does. -/
def inputNames (p : Problem) : List String :=
  match p.inputType with
  | some d => inputNamesIn d
  | none => p.params.map (·.typeName)

def outputNames (p : Problem) : List String :=
  match p.outputType with
  | some d => outputNamesIn d
  | none => p.returnType.toList

def typeNames (p : Problem) : List String := p.inputNames ++ p.outputNames

/-! What type names resolve to. -/

theorem isNamed_inputs {d : Description} (h : ∀ n ∈ inputNamesIn d, Text.isBlankText n = false) :
    ∀ spec ∈ namedInputs d, spec.IsNamed := by
  intro spec hspec
  rw [inputNamesIn] at h
  rw [namedInputs] at hspec
  cases hd : d.decode with
  | array items =>
    rw [hd] at h hspec
    obtain ⟨v, hv, rfl⟩ := List.mem_map.mp hspec
    unfold typeNameItem
    split
    · next name =>
      exact TypeName.isNamed_to_spec (h name (List.mem_filterMap.mpr ⟨_, hv, rfl⟩))
    · exact TypeName.isNamed_scalar v.not_blank_to_text
  | string text =>
    rw [hd] at h hspec
    obtain ⟨name, hname, rfl⟩ := List.mem_map.mp hspec
    exact TypeName.isNamed_to_spec (h name hname)
  | null | bool b | number n | object members =>
    rw [hd] at hspec
    cases hspec

/-- A text that is not longer than the greatest number of 32 bits has brackets that can be
counted. -/
theorem brackets_fit_of_length {p : Problem} (h : ∀ (d : Description) (text : String),
    p.inputType = some d → d.decode = .string text → text.length < 0x80000000) :
    p.BracketsFit := fun d hd text htext =>
  TypeName.depth_fits_of_length (h d text hd htext)

theorem exists_input_specs {p : Problem} (hin : p.inputFormats = none) (hfits : p.BracketsFit) :
    ∃ raw, p.inputSpecs = .ok (p.completeInputs raw) ∧ (∀ spec ∈ raw, spec.IsPlain) ∧
      ((∀ n ∈ p.inputNames, Text.isBlankText n = false) → ∀ spec ∈ raw, spec.IsNamed) := by
  cases hd : p.inputType with
  | some d =>
    rw [input_specs_of_fits hin hd hfits, inputNames, hd]
    exact ⟨namedInputs d, rfl, plain_of_type_names, isNamed_inputs⟩
  | none =>
    rw [inputSpecs, inputNames, hin, hd]
    refine ⟨p.params.map fun q => TypeName.toSpec q.typeName, ?_, ?_, ?_⟩
    · rfl
    · intro spec hspec
      obtain ⟨q, -, rfl⟩ := List.mem_map.mp hspec
      exact TypeName.isPlain_to_spec q.typeName
    · intro h spec hspec
      obtain ⟨q, hq, rfl⟩ := List.mem_map.mp hspec
      exact TypeName.isNamed_to_spec (h q.typeName (List.mem_map_of_mem hq))

theorem type_name_output_cases (d : Description) :
    (∃ n, typeNameOutput d = TypeName.toSpec n ∧ outputNamesIn d = [n]) ∨
      typeNameOutput d = .ofBaseType .primitive := by
  unfold typeNameOutput outputNamesIn
  cases d.decode with
  | string n => exact Or.inl ⟨n, rfl, rfl⟩
  | array items =>
    -- only the first item counts
    cases items with
    | nil => exact Or.inr rfl
    | cons v items =>
      cases v with
      | string n => exact Or.inl ⟨n, rfl, rfl⟩
      | null | bool b | number n | array vs | object members => exact Or.inr rfl
  | null | bool b | number n | object members => exact Or.inr rfl

theorem exists_output_spec {p : Problem} (hout : p.outputFormat = none) :
    ∃ spec, p.outputSpec = .ok spec ∧ spec.IsPlain ∧
      ((∀ n ∈ p.outputNames, Text.isBlankText n = false) → spec.IsNamed) := by
  have hcases : (∃ n, p.outputSpec = .ok (TypeName.toSpec n) ∧ p.outputNames = [n]) ∨
      p.outputSpec = .ok (.ofBaseType .primitive) := by
    rw [outputSpec, outputNames, hout]
    cases p.outputType with
    | some d =>
      rcases type_name_output_cases d with ⟨n, hspec, hnames⟩ | hspec
      · exact Or.inl ⟨n, congrArg Except.ok hspec, hnames⟩
      · exact Or.inr (congrArg Except.ok hspec)
    | none =>
      cases p.returnType with
      | some n => exact Or.inl ⟨n, rfl, rfl⟩
      | none => exact Or.inr rfl
  rcases hcases with ⟨n, hspec, hnames⟩ | hspec
  · refine ⟨_, hspec, TypeName.isPlain_to_spec n, ?_⟩
    intro h
    exact TypeName.isNamed_to_spec (h n (by simp [hnames]))
  · exact ⟨_, hspec, FormatSpec.isPlain_of_base _, fun _ => FormatSpec.isNamed_of_base _⟩

/-! Shapes that are written back. -/

theorem structured_items_of_placed {first : Nat} {specs : List FormatSpec}
    (hplaced : Placed first specs) (hsample : ∀ spec ∈ specs, spec.sample = none)
    (hnamed : ∀ spec ∈ specs, spec.IsNamed) :
    structuredItems first (specs.map fun spec => spec.toJson.sorted) = .ok specs := by
  induction specs generalizing first with
  | nil => rfl
  | cons spec specs ih =>
    obtain ⟨hindex, hrest⟩ := (Placed.cons_iff first spec specs).mp hplaced
    -- the first shape says the place where it stands
    have hread := FormatSpec.of_described_to_json (hsample spec (by simp)) (hnamed spec (by simp))
    have hspecs := ih hrest (fun s hs => hsample s (List.mem_cons_of_mem spec hs))
      fun s hs => hnamed s (List.mem_cons_of_mem spec hs)
    have hkept : spec.placedAt first = spec := by
      rw [FormatSpec.placedAt, hindex, Option.getD_some, ← hindex]
    rw [List.map_cons, structuredItems, hread]
    dsimp only
    rw [hspecs, hkept]

theorem structured_inputs_of_placed {d : Description} {specs : List FormatSpec}
    (hplaced : Placed 0 specs) (hsample : ∀ spec ∈ specs, spec.sample = none)
    (hnamed : ∀ spec ∈ specs, spec.IsNamed)
    (hd : d.decodeStrict? = some (Json.Value.array (specs.map FormatSpec.toJson)).sorted) :
    structuredInputs d = .ok specs := by
  rw [Json.Value.sorted, Json.Value.sorted_items_eq, List.map_map] at hd
  have hitems : structuredItems 0 (specs.map (Json.Value.sorted ∘ FormatSpec.toJson)) = .ok specs :=
    structured_items_of_placed hplaced hsample hnamed
  rw [structuredInputs, hd]
  dsimp only
  rw [hitems]
  dsimp only
  rw [sort_by_place_of_placed hplaced, if_pos ((Placed.all_iff 0 specs).mpr hplaced)]

theorem mem_complete_inputs {p : Problem} {raw : List FormatSpec} {spec : FormatSpec}
    (h : spec ∈ p.completeInputs raw) :
    ∃ r ∈ raw, spec.sample = r.sample ∧ spec.elementType = r.elementType := by
  obtain ⟨i, hi⟩ := List.mem_iff_getElem?.mp h
  rw [getElem?_complete_inputs] at hi
  obtain ⟨r, hr, rfl⟩ := Option.map_eq_some_iff.mp hi
  exact ⟨r, List.mem_of_getElem? hr, rfl, rfl⟩

/-- Without structured descriptions a problem resolves exactly if the brackets of its type names can
be counted. If moreover its type names are not blank, a problem with the same parameters that
describes the resolved shapes resolves to them again. -/
theorem formats_of_written_back {p : Problem} (hin : p.inputFormats = none)
    (hout : p.outputFormat = none) :
    ((∃ f, Formats.ofProblem p = .ok f) ↔ p.BracketsFit) ∧
    ((∀ (d : Description) (text : String), p.inputType = some d → d.decode = .string text →
      text.length < 0x80000000) → ∃ f, Formats.ofProblem p = .ok f) ∧
    ∀ f, Formats.ofProblem p = .ok f → (∀ n ∈ p.typeNames, Text.isBlankText n = false) →
      ∀ (q : Problem) (dIn dOut : Description), q.params = p.params →
        q.inputFormats = some dIn → q.outputFormat = some dOut →
        dIn.decodeStrict? = some (Json.Value.array (f.inputs.map FormatSpec.toJson)).sorted →
        dOut.decodeStrict? = some f.output.toJson.sorted → Formats.ofProblem q = .ok f := by
  have hresolves (hfits : p.BracketsFit) : ∃ f, Formats.ofProblem p = .ok f := by
    obtain ⟨raw, hinputs, -⟩ := exists_input_specs hin hfits
    obtain ⟨output, houtput, -⟩ := exists_output_spec hout
    exact ⟨⟨_, output⟩, Formats.of_problem_eq_ok_iff.mpr ⟨hinputs, houtput⟩⟩
  have hcounted {f : Formats} (hf : Formats.ofProblem p = .ok f) : p.BracketsFit :=
    brackets_fit_of_input_specs hin (Formats.of_problem_eq_ok_iff.mp hf).1
  refine ⟨⟨fun ⟨f, hf⟩ => hcounted hf, hresolves⟩,
    fun hlength => hresolves (brackets_fit_of_length hlength), ?_⟩
  intro f hf hnames q dIn dOut hparams hqin hqout hdIn hdOut
  obtain ⟨raw, hinputs, hplain, hrawNamed⟩ := exists_input_specs hin (hcounted hf)
  obtain ⟨output, houtput, houtPlain, houtNamed⟩ := exists_output_spec hout
  obtain rfl : f = ⟨p.completeInputs raw, output⟩ := by
    have hboth : Formats.ofProblem p = .ok ⟨p.completeInputs raw, output⟩ :=
      Formats.of_problem_eq_ok_iff.mpr ⟨hinputs, houtput⟩
    exact Except.ok.inj (hf.symm.trans hboth)
  have hplaced := p.placed_of_plain hplain
  have hsample : ∀ spec ∈ p.completeInputs raw, spec.sample = none := by
    intro spec hspec
    obtain ⟨r, hr, hsame, -⟩ := mem_complete_inputs hspec
    rw [hsame, (hplain r hr).sample]
  have hnamed : ∀ spec ∈ p.completeInputs raw, spec.IsNamed := by
    intro spec hspec
    obtain ⟨r, hr, -, hsame⟩ := mem_complete_inputs hspec
    -- a completed shape has the element of the raw one
    rw [FormatSpec.IsNamed, hsame]
    exact hrawNamed (fun n hn => hnames n (List.mem_append_left _ hn)) r hr
  -- the parameters fill the same names in again, and these are there already
  have hcomplete : q.completeInputs = p.completeInputs := complete_inputs_congr hparams
  have hqinputs : q.inputSpecs = .ok (p.completeInputs raw) := by
    rw [inputSpecs, hqin, FormatOrigin.of]
    dsimp only
    rw [structured_inputs_of_placed hplaced hsample hnamed hdIn, hcomplete, Except.map,
      p.complete_inputs_idem]
  have hqoutput : q.outputSpec = .ok output := by
    rw [outputSpec, hqout, FormatOrigin.of]
    dsimp only
    rw [hdOut]
    exact FormatSpec.of_described_to_json houtPlain.sample
      (houtNamed fun n hn => hnames n (List.mem_append_right _ hn))
  exact Formats.of_problem_eq_ok_iff.mpr ⟨hqinputs, hqoutput⟩

/-- Names in a text, an item that is no string and an output that is a list. -/
theorem formats_of_mixed_written_back :
    let p := (((Problem.named "scale").withParam "xs" "").withParam "by" "").withReturn "ignored"
    let p := { p with
      inputType := some (.inline (.array [.string "array<int>", .null]))
      outputType := some (.inline (.array [.string "array<array<int>>"])) }
    ∃ f, Formats.ofProblem p = .ok f ∧ Formats.ofProblem { p with
      inputFormats := some (.inline (Json.Value.array (f.inputs.map FormatSpec.toJson)).sorted)
      outputFormat := some (.inline f.output.toJson.sorted) } = .ok f := by
  intro p₀ p
  obtain ⟨hresolves, -, hagain⟩ := formats_of_written_back (show p.inputFormats = none from rfl) rfl
  have hfits : p.BracketsFit := by
    intro d hd text htext
    cases hd
    cases htext
  obtain ⟨f, hf⟩ := hresolves.mpr hfits
  have hnames : ∀ n ∈ p.typeNames, Text.isBlankText n = false := by decide
  exact ⟨f, hf, hagain f hf hnames _ _ _ rfl rfl rfl rfl rfl⟩

end Problem

end CodeJudge
