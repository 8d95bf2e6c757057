import CodeJudge.Proofs.Json.Strings
import CodeJudge.Proofs.Problem.Places
/-!
Lists of type names. A problem may give the type names of its inputs as JSON in place, as a JSON
text, as a plain text with commas, or in its signature, and likewise the type name of its output.
All of them resolve to the same shapes, as no plain text of type names is JSON.
-/
namespace CodeJudge

namespace TypeName

theorem Listable.parse_eq_none {name : String} (h : Listable name) :
    Json.Value.parse? name = none := by
  cases hv : Json.Value.parse? name with
  | none => rfl
  | some v =>
    obtain ⟨c, cs, hcs, hc⟩ := h.letter
    obtain ⟨word, hword, rest, hname, hrest⟩ := Json.Value.parse_letter hcs hc hv
    -- no white space stands behind the word, as the name is trimmed
    have htrimmed : Text.trimmed name.toList = word.toList := by
      rw [hname]
      have hblank : ∀ d ∈ rest, Text.isBlank d = true := by
        intro d hd
        exact Json.blank_of_space (hrest d hd)
      have hvisible : ∀ d ∈ word.toList, ¬ Text.isBlank d = true := by
        have hwords : ∀ w ∈ ["null", "true", "false"], w.toList.any Text.isBlank = false := by
          decide
        exact List.any_eq_false.mp (hwords word hword)
      refine Text.trimmed_append (b := []) (by simp) hblank ?_ ?_
      · intro d hd
        exact Bool.eq_false_iff.mpr (hvisible d (List.mem_of_mem_head? hd))
      · intro d hd
        exact Bool.eq_false_iff.mpr (hvisible d (List.mem_of_mem_getLast? hd))
    rw [h.trimmed_chars] at htrimmed
    rw [String.toList_inj.mp htrimmed] at h
    exact absurd hword h.word

theorem parse_join_eq_none {names : List String} (h : ∀ n ∈ names, Listable n) :
    Json.Value.parse? (String.intercalate ", " names) = none := by
  match names, h with
  | [], _ => cbv
  | [name], h => exact (h name (by simp)).parse_eq_none
  | name :: other :: names, h =>
    cases hv : Json.Value.parse? (String.intercalate ", " (name :: other :: names)) with
    | none => rfl
    | some v =>
      obtain ⟨c, cs, hcs, hc⟩ := (h name (by simp)).letter
      have hjoin : (String.intercalate ", " (name :: other :: names)).toList = c :: (cs ++
          ',' :: List.intercalate [','] ((' ' :: other.toList) ::
            names.map fun n => ' ' :: n.toList)) := by
        rw [to_list_join, List.map_cons, List.intercalate_cons_cons, hcs]
        simp
      obtain ⟨word, hword, rest, hs, hrest⟩ := Json.Value.parse_letter hjoin hc hv
      -- the comma is neither in the word nor white space
      have hcomma : ',' ∈ word.toList ++ rest := by
        rw [← hs, hjoin]
        simp
      rcases List.mem_append.mp hcomma with hmem | hmem
      · fin_cases hword <;> exact absurd hmem (by decide)
      · exact absurd (hrest _ hmem) (by decide)

end TypeName

namespace Problem

/-- The problem lists the type names of its inputs: as JSON in place, as a JSON text, as a plain
text with commas, or by its parameters alone. -/
inductive ListsInputs (p : Problem) (names : List String) : Prop where
  | inline (h : p.inputType = some (.inline (.array (names.map .string))))
  | compact (h : p.inputType = some (.encoded (Json.Value.array (names.map .string)).toText))
  | encoded (text : String) (h : p.inputType = some (.encoded text))
      (htext : Json.Value.parse? text = some (.array (names.map .string)))
  | plain (h : p.inputType = some (.encoded (String.intercalate ", " names)))
  | signature (h : p.inputType = none) (hparams : p.params.map (·.typeName) = names)

/-- The problem names the type of its output: as a plain text, as a JSON text, as the only item of
a list, or by its return type alone. -/
inductive NamesOutput (p : Problem) (name : String) : Prop where
  | plain (h : p.outputType = some (.encoded name))
  | compact (h : p.outputType = some (.encoded (Json.Value.string name).toText))
  | encoded (text : String) (h : p.outputType = some (.encoded text))
      (htext : Json.Value.parse? text = some (.string name))
  | inline (h : p.outputType = some (.inline (.array [.string name])))
  | signature (h : p.outputType = none) (hreturn : p.returnType = some name)

theorem named_inputs_array {d : Description} {names : List String}
    (h : d.decode = .array (names.map .string)) : namedInputs d = names.map TypeName.toSpec := by
  rw [namedInputs, h]
  simp [typeNameItem, Function.comp_def]

theorem named_inputs_plain {names : List String} (h : ∀ n ∈ names, TypeName.Listable n) :
    namedInputs (.encoded (String.intercalate ", " names)) = names.map TypeName.toSpec := by
  rw [namedInputs, Description.decode, TypeName.parse_join_eq_none h, Option.getD_none]
  dsimp only
  rw [TypeName.listed_join names h]

theorem brackets_fit_array {p : Problem} {d : Description} {names : List String}
    (h : p.inputType = some d) (hd : d.decode = .array (names.map .string)) : p.BracketsFit := by
  intro e he text htext
  rw [h, Option.some.injEq] at he
  rw [← he, hd] at htext
  cases htext

theorem ListsInputs.input_specs {p : Problem} {names : List String} (h : p.ListsInputs names)
    (hin : p.inputFormats = none) (hnames : ∀ n ∈ names, TypeName.Listable n)
    (hfits : p.BracketsFit) :
    p.inputSpecs = .ok (p.completeInputs (names.map TypeName.toSpec)) := by
  have hencoded (text : String) (h : p.inputType = some (.encoded text))
      (htext : Json.Value.parse? text = some (.array (names.map .string))) :
      p.inputSpecs = .ok (p.completeInputs (names.map TypeName.toSpec)) := by
    have hdecode : (Description.encoded text).decode = .array (names.map .string) := by
      rw [Description.decode, htext, Option.getD_some]
    rw [input_specs_of_fits hin h hfits, named_inputs_array hdecode]
  cases h with
  | inline h => rw [input_specs_of_fits hin h hfits, named_inputs_array rfl]
  | compact h => exact hencoded _ h (Json.parse_strings_text names)
  | encoded text h htext => exact hencoded text h htext
  | plain h => rw [input_specs_of_fits hin h hfits, named_inputs_plain hnames]
  | signature h hparams =>
    rw [inputSpecs, hin, h, ← hparams, List.map_map]
    rfl

/-- Only in a plain text are brackets counted, and there they are as deep as in the names. -/
theorem ListsInputs.brackets_fit {p : Problem} {names : List String} (h : p.ListsInputs names)
    (hnames : ∀ n ∈ names, TypeName.Listable n)
    (hfits : ∀ n ∈ names, TypeName.DepthFits 0 n.toList) : p.BracketsFit := by
  have hencoded (text : String) (h : p.inputType = some (.encoded text))
      (htext : Json.Value.parse? text = some (.array (names.map .string))) : p.BracketsFit :=
    brackets_fit_array h (by rw [Description.decode, htext, Option.getD_some])
  cases h with
  | inline h => exact brackets_fit_array h rfl
  | compact h => exact hencoded _ h (Json.parse_strings_text names)
  | encoded text h htext => exact hencoded text h htext
  | plain h =>
    intro d hd text htext
    rw [h, Option.some.injEq] at hd
    rw [← hd, Description.decode, TypeName.parse_join_eq_none hnames, Option.getD_none,
      Json.Value.string.injEq] at htext
    rw [← htext]
    exact TypeName.depth_fits_join hnames hfits
  | signature h hparams =>
    intro d hd
    rw [h] at hd
    cases hd

theorem NamesOutput.output_spec {p : Problem} {name : String} (h : p.NamesOutput name)
    (hout : p.outputFormat = none) (hname : TypeName.Listable name) :
    p.outputSpec = .ok (TypeName.toSpec name) := by
  have hdescribed (d : Description) (h : p.outputType = some d)
      (hd : typeNameOutput d = TypeName.toSpec name) :
      p.outputSpec = .ok (TypeName.toSpec name) := by
    rw [outputSpec, hout, h, ← hd]
    rfl
  have hencoded (text : String) (h : p.outputType = some (.encoded text))
      (htext : (Json.Value.parse? text).getD (.string text) = .string name) :
      p.outputSpec = .ok (TypeName.toSpec name) :=
    hdescribed _ h (by rw [typeNameOutput, Description.decode, htext])
  cases h with
  | plain h => exact hencoded name h (by rw [hname.parse_eq_none, Option.getD_none])
  | compact h => exact hencoded _ h (by rw [Json.parse_string_text, Option.getD_some])
  | encoded text h htext => exact hencoded text h (by rw [htext, Option.getD_some])
  | inline h => exact hdescribed _ h rfl
  | signature h hreturn =>
    rw [outputSpec, hout, h, hreturn]
    rfl

/-- Problems with the same parameters that list the same names, in whatever way, resolve alike,
unless the brackets of a plain text are too deep to be counted; those of names that can be counted
are not. -/
theorem specs_of_same_names {p q : Problem} {names : List String} {name : String}
    (hparams : p.params = q.params) (hpin : p.inputFormats = none) (hqin : q.inputFormats = none)
    (hpout : p.outputFormat = none) (hqout : q.outputFormat = none)
    (hnames : ∀ n ∈ names, TypeName.Listable n) (hname : TypeName.Listable name) :
    (p.ListsInputs names → q.ListsInputs names →
        ((∃ specs, p.inputSpecs = .ok specs ∧ q.inputSpecs = .ok specs) ↔
          p.BracketsFit ∧ q.BracketsFit) ∧
        ((∀ n ∈ names, TypeName.DepthFits 0 n.toList) → p.BracketsFit ∧ q.BracketsFit)) ∧
      (p.NamesOutput name → q.NamesOutput name →
        ∃ spec, p.outputSpec = .ok spec ∧ q.outputSpec = .ok spec) := by
  constructor
  · intro hp hq
    refine ⟨⟨?_, ?_⟩, fun hfits => ⟨hp.brackets_fit hnames hfits, hq.brackets_fit hnames hfits⟩⟩
    · rintro ⟨specs, hpspecs, hqspecs⟩
      exact ⟨brackets_fit_of_input_specs hpin hpspecs, brackets_fit_of_input_specs hqin hqspecs⟩
    · rintro ⟨hpfits, hqfits⟩
      have hcomplete : p.completeInputs = q.completeInputs := complete_inputs_congr hparams
      refine ⟨_, hp.input_specs hpin hnames hpfits, ?_⟩
      rw [hq.input_specs hqin hnames hqfits, hcomplete]
  · intro hp hq
    exact ⟨_, hp.output_spec hpout hname, hq.output_spec hqout hname⟩

/-- A plain text with generic names against the signature alone. -/
theorem specs_of_generic_names :
    let p := ((Problem.named "merge").withParam "index" "map<int,list<int>>").withParam "rows"
      "array<array<int>>"
    let q := { p with
      inputType := some (.encoded "map<int,list<int>>, array<array<int>>")
      outputType := some (.encoded "map<int,int>") }
    let r := p.withReturn "map<int,int>"
    (∃ specs, q.inputSpecs = .ok specs ∧ r.inputSpecs = .ok specs) ∧
      ∃ spec, q.outputSpec = .ok spec ∧ r.outputSpec = .ok spec := by
  intro p q r
  have hnames : ∀ n ∈ ["map<int,list<int>>", "array<array<int>>"], TypeName.Listable n := by
    decide
  have hname : TypeName.Listable "map<int,int>" := by
    decide
  have hfits : ∀ n ∈ ["map<int,list<int>>", "array<array<int>>"],
      TypeName.DepthFits 0 n.toList := by
    intro n hn
    apply TypeName.depth_fits_of_length
    fin_cases hn <;> decide
  have h := specs_of_same_names (show q.params = r.params from rfl) rfl rfl rfl rfl hnames hname
  obtain ⟨hresolve, hcounted⟩ := h.1 (.plain rfl) (.signature rfl rfl)
  exact ⟨hresolve.mpr (hcounted hfits), h.2 (.plain rfl) (.signature rfl rfl)⟩

end Problem

end CodeJudge
