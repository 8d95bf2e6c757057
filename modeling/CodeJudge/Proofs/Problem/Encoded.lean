import CodeJudge.Proofs.Json.Integers
import CodeJudge.Proofs.Problem.Places
/-!
Descriptions in place and as texts. A JSON value and its text are decoded alike, strictly as well as
with plain texts let through, so a problem resolves to the same shapes, or fails with the same
error, whichever of the two it gives as a description.
-/
namespace CodeJudge

namespace Description

/-- Nothing that is decoded of one description differs from the other. -/
structure Alike (d e : Description) : Prop where
  decode_eq : d.decode = e.decode
  decode_strict_eq : d.decodeStrict? = e.decodeStrict?

theorem Alike.refl (d : Description) : Alike d d := ⟨rfl, rfl⟩

theorem alike_of_parse {text : String} {v : Json.Value} (h : Json.Value.parse? text = some v) :
    Alike (encoded text) (inline v) := by
  constructor
  · rw [decode, decode, h, Option.getD_some]
  · rw [decodeStrict?, decodeStrict?, h]

end Description

namespace Problem

variable {p q : Problem}

theorem structured_inputs_of_alike {d e : Description} (h : d.Alike e) :
    structuredInputs d = structuredInputs e := by
  rw [structuredInputs, structuredInputs, h.decode_strict_eq]

theorem type_name_inputs_of_alike {d e : Description} (h : d.Alike e) :
    typeNameInputs d = typeNameInputs e := by
  rw [typeNameInputs, typeNameInputs, h.decode_eq]

theorem type_name_output_of_alike {d e : Description} (h : d.Alike e) :
    typeNameOutput d = typeNameOutput e := by
  rw [typeNameOutput, typeNameOutput, h.decode_eq]

/-- The problems have one signature, and descriptions in the same places, each like the other. -/
structure Restates (p q : Problem) : Prop where
  params : p.params = q.params
  returnType : p.returnType = q.returnType
  inputFormats : Option.Rel Description.Alike p.inputFormats q.inputFormats
  outputFormat : Option.Rel Description.Alike p.outputFormat q.outputFormat
  inputType : Option.Rel Description.Alike p.inputType q.inputType
  outputType : Option.Rel Description.Alike p.outputType q.outputType

namespace Restates

theorem input_specs (h : p.Restates q) : p.inputSpecs = q.inputSpecs := by
  obtain ⟨hparams, -, hformats, -, htype, -⟩ := h
  have hcomplete : p.completeInputs = q.completeInputs := complete_inputs_congr hparams
  rw [inputSpecs, inputSpecs, hcomplete, hparams]
  generalize p.inputFormats = f, q.inputFormats = g at hformats ⊢
  generalize p.inputType = s, q.inputType = t at htype ⊢
  -- a description of the inputs comes before one of their type, and this before the parameters
  cases hformats with
  | some hd =>
    rw [FormatOrigin.of, FormatOrigin.of]
    dsimp only
    rw [structured_inputs_of_alike hd]
  | none =>
    cases htype with
    | some hd =>
      rw [FormatOrigin.of, FormatOrigin.of]
      dsimp only
      rw [type_name_inputs_of_alike hd]
    | none => rfl

theorem output_spec (h : p.Restates q) : p.outputSpec = q.outputSpec := by
  obtain ⟨-, hreturn, -, hformat, -, htype⟩ := h
  rw [outputSpec, outputSpec, hreturn]
  generalize p.outputFormat = f, q.outputFormat = g at hformat ⊢
  generalize p.outputType = s, q.outputType = t at htype ⊢
  cases hformat with
  | some hd =>
    rw [FormatOrigin.of, FormatOrigin.of]
    dsimp only
    rw [hd.decode_strict_eq]
  | none =>
    cases htype with
    | some hd =>
      rw [FormatOrigin.of, FormatOrigin.of]
      dsimp only
      rw [type_name_output_of_alike hd]
    | none => rfl

theorem formats (h : p.Restates q) : Formats.ofProblem p = Formats.ofProblem q := by
  rw [Formats.ofProblem, Formats.ofProblem, h.input_specs, h.output_spec]

end Restates

end Problem

/-- A value of integers, texts and the like gives the same shapes or the same error in place and as
its text, whatever it describes. -/
theorem formats_of_text_in_place {v : Json.Value} (hw : v.WellFormed) (hfree : v.FloatFree)
    (hdepth : v.depth ≤ Json.maxDepth) (p : Problem) :
    Formats.ofProblem { p with inputFormats := some (.encoded v.toText) } =
        Formats.ofProblem { p with inputFormats := some (.inline v) } ∧
      Formats.ofProblem { p with outputFormat := some (.encoded v.toText) } =
        Formats.ofProblem { p with outputFormat := some (.inline v) } ∧
      Formats.ofProblem { p with inputType := some (.encoded v.toText) } =
        Formats.ofProblem { p with inputType := some (.inline v) } ∧
      Formats.ofProblem { p with outputType := some (.encoded v.toText) } =
        Formats.ofProblem { p with outputType := some (.inline v) } := by
  have hparse : Json.Value.parse? v.toText = some v := by
    have hsurvives : v.Survives := Json.Value.survives_of_float_free hw hfree
    rw [Json.Value.parse_to_text hsurvives hdepth, Json.Value.sorted_of_well_formed v hw]
  have halike : Option.Rel Description.Alike (some (.encoded v.toText)) (some (.inline v)) :=
    .some (Description.alike_of_parse hparse)
  have hsame (d? : Option Description) : Option.Rel Description.Alike d? d? := by
    cases d? with
    | none => exact .none
    | some d => exact .some (Description.Alike.refl d)
  refine ⟨?_, ?_, ?_, ?_⟩
  · apply Problem.Restates.formats
    exact ⟨rfl, rfl, halike, hsame _, hsame _, hsame _⟩
  · apply Problem.Restates.formats
    exact ⟨rfl, rfl, hsame _, halike, hsame _, hsame _⟩
  · apply Problem.Restates.formats
    exact ⟨rfl, rfl, hsame _, hsame _, halike, hsame _⟩
  · apply Problem.Restates.formats
    exact ⟨rfl, rfl, hsame _, hsame _, hsame _, halike⟩

/-- A well-formed shape among items that are none: a flag in place of a name, a negative place,
null, and a list. -/
def mixedItems : Json.Value :=
  .array [.object [("baseType", .string "array"), ("elementType", .string "int"),
      ("paramIndex", .number (.int 1))],
    .object [("baseType", .bool true), ("paramIndex", .number (.int (-1)))],
    .null, .array [.string "array<int>", .array []]]

theorem formats_of_mixed_items_in_place :
    let p := ((Problem.named "scale").withParam "xs" "int[]").withParam "by" "int"
    mixedItems.WellFormed ∧ mixedItems.FloatFree ∧ mixedItems.depth ≤ Json.maxDepth ∧
      Formats.ofProblem { p with inputFormats := some (.encoded mixedItems.toText) } =
        Formats.ofProblem { p with inputFormats := some (.inline mixedItems) } ∧
      Formats.ofProblem { p with outputType := some (.encoded mixedItems.toText) } =
        Formats.ofProblem { p with outputType := some (.inline mixedItems) } := by
  intro p
  have hw : mixedItems.WellFormed := by
    have hshape : Json.Ascending [("baseType", Json.Value.string "array"),
        ("elementType", .string "int"), ("paramIndex", .number (.int 1))] :=
      List.pairwise_map.mp
        (show ["baseType", "elementType", "paramIndex"].Pairwise (· < ·) by decide)
    have hflag : Json.Ascending [("baseType", Json.Value.bool true),
        ("paramIndex", .number (.int (-1)))] :=
      List.pairwise_map.mp (show ["baseType", "paramIndex"].Pairwise (· < ·) by decide)
    have hone : Json.Number.InRange 1 := by decide
    have hminus : Json.Number.InRange (-1) := by decide
    exact ⟨⟨hshape, trivial, trivial, hone, trivial⟩, ⟨hflag, trivial, hminus, trivial⟩, trivial,
      ⟨trivial, trivial, trivial⟩, trivial⟩
  have hfree : mixedItems.FloatFree :=
    ⟨⟨trivial, trivial, trivial, trivial⟩, ⟨trivial, trivial, trivial⟩, trivial,
      ⟨trivial, trivial, trivial⟩, trivial⟩
  have hdepth : mixedItems.depth ≤ Json.maxDepth := by decide
  obtain ⟨hinputs, -, -, houtput⟩ := formats_of_text_in_place hw hfree hdepth p
  exact ⟨hw, hfree, hdepth, hinputs, houtput⟩

end CodeJudge
