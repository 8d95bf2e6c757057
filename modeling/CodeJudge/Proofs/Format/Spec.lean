import CodeJudge.Problem.Formats
import CodeJudge.Proofs.Format.TypeName
import CodeJudge.Proofs.Json.Decoding
/-!
Specifications as structured descriptions. The object of a specification without a sample describes
that specification, unless its element is blank.
-/
namespace CodeJudge

theorem BaseType.of_name_name (b : BaseType) : ofName? b.name = some b := by
  cases b <;> decide

namespace FormatSpec

/-- The members of the object of a specification without a sample. -/
def members (spec : FormatSpec) : List (String × Json.Value) :=
  [("baseType", spec.baseType.toJson)]
    ++ Json.Value.member? "elementType" .string spec.elementType
    ++ [("strategyName", .string spec.strategyName)]
    ++ Json.Value.member? "paramIndex" .nat spec.paramIndex
    ++ Json.Value.member? "paramName" .string spec.paramName

theorem to_json_eq {spec : FormatSpec} (h : spec.sample = none) :
    spec.toJson = .object spec.members := by
  rw [toJson, h]
  simp [members, Json.Value.member?]

theorem members_taken (spec : FormatSpec) : ∀ m ∈ spec.members, Described.shape.Takes m := by
  intro m hm
  simp only [members, List.mem_append, List.mem_singleton] at hm
  rcases hm with (((rfl | hm) | rfl) | hm) | hm
  · exact ⟨_, rfl, rfl, (Json.decodes_string _).check⟩
  · obtain ⟨e, -, rfl⟩ := Json.mem_member hm
    exact ⟨_, rfl, rfl, (Json.decodes_option_string e).check⟩
  · exact ⟨_, rfl, rfl, (Json.decodes_option_string spec.strategyName).check⟩
  · obtain ⟨n, -, rfl⟩ := Json.mem_member hm
    exact ⟨_, rfl, rfl, (Json.decodes_option_size n).check⟩
  · obtain ⟨s, -, rfl⟩ := Json.mem_member hm
    exact ⟨_, rfl, rfl, (Json.decodes_option_string s).check⟩

theorem keys_nodup (spec : FormatSpec) : (spec.members.map (·.1)).Nodup := by
  have hsub : (spec.members.map (·.1)).Sublist
      (["baseType"] ++ ["elementType"] ++ ["strategyName"] ++ ["paramIndex"] ++ ["paramName"]) := by
    simp only [members, List.map_append]
    repeat' apply List.Sublist.append
    all_goals first | exact Json.keys_member_sublist _ _ _ | exact List.Sublist.refl _
  exact hsub.nodup (by decide)

theorem lookup_members (spec : FormatSpec) :
    spec.members.lookup "baseType" = some (.string spec.baseType.name) ∧
    spec.members.lookup "elementType" = spec.elementType.map .string ∧
    spec.members.lookup "strategyName" = some (.string spec.strategyName) ∧
    spec.members.lookup "paramIndex" = spec.paramIndex.map .nat ∧
    spec.members.lookup "paramName" = spec.paramName.map .string ∧
    spec.members.lookup "example" = none := by
  simp [members, List.lookup_append, Json.lookup_member, List.lookup, BaseType.toJson]

/-- A specification is described by its object. -/
theorem of_described_to_json {spec : FormatSpec} (hsample : spec.sample = none)
    (hnamed : spec.IsNamed) : ofDescribed spec.toJson.sorted = .ok spec := by
  have hdecode : Described.ofJson spec.toJson.sorted = .ok ⟨spec.baseType.name, spec.elementType,
      some spec.strategyName, spec.paramIndex, spec.paramName, none⟩ := by
    obtain ⟨slots, hopen, hold⟩ := Described.shape.open_any_arranged Json.is_arrangement_sorted
      spec.members_taken spec.keys_nodup
    obtain ⟨hbase, helement, hstrategy, hindex, hname, hexample⟩ := spec.lookup_members
    replace hbase := hold.required hbase (Json.decodes_string spec.baseType.name)
    replace helement := hold.optional_member helement fun e _ => Json.decodes_option_string e
    replace hstrategy := hold.optional hstrategy (Json.decodes_option_string spec.strategyName)
    replace hindex := hold.optional_member hindex fun n _ => Json.decodes_option_size n
    replace hname := hold.optional_member hname fun s _ => Json.decodes_option_string s
    replace hexample : slots.optional "example" Json.Decode.any = .ok none := by
      rw [Json.Slots.optional, Json.Slots.withDefault, hold.lookup_eq, hexample]
      rfl
    rw [to_json_eq hsample, Described.ofJson, hopen]
    simp only [bind, Except.bind, hbase, helement, hstrategy, hindex, hname, hexample]
    rfl
  -- reading drops a blank element, and there is none
  have hfilter : spec.elementType.filter (fun e => !Text.isBlankText e) = spec.elementType := by
    cases he : spec.elementType with
    | none => rfl
    | some e => simp [hnamed e he]
  rw [ofDescribed, hdecode]
  simp only [BaseType.of_name_name, Described.toSpec, hfilter, Option.getD_some]
  rw [← hsample]

end FormatSpec

end CodeJudge
