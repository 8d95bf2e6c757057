import CodeJudge.Diagnostic
import CodeJudge.Proofs.Json.Decoding
/-!
Diagnostics as data. A diagnostic is decoded from its object, however the members of the object are
arranged. Only its details have to stand in order, and in a diagnostic that was decoded they do.
-/
namespace CodeJudge

open Json (Decodes)

theorem Category.decodes_to_json (c : Category) : Decodes ofJson c.toJson c :=
  Json.decodes_variant (by cases c <;> rfl) none

namespace CodeContext

/-- The members of the object of a piece of code. -/
def members (c : CodeContext) : List (String × Json.Value) :=
  [("before", .strings c.before), ("errorLine", .string c.errorLine), ("after", .strings c.after)]

theorem to_json_eq (c : CodeContext) : c.toJson = .object c.members := rfl

theorem members_taken (c : CodeContext) : ∀ m ∈ c.members, shape.Takes m := by
  intro m hm
  simp only [members, List.mem_cons, List.not_mem_nil, or_false] at hm
  rcases hm with rfl | rfl | rfl
  · exact ⟨_, rfl, rfl, (Json.decodes_strings c.before).check⟩
  · exact ⟨_, rfl, rfl, (Json.decodes_string c.errorLine).check⟩
  · exact ⟨_, rfl, rfl, (Json.decodes_strings c.after).check⟩

theorem decodes_to_json (c : CodeContext) : Decodes ofJson c.toJson c := by
  intro g hg
  obtain ⟨slots, hopen, hold⟩ :=
    shape.open_any_arranged hg c.members_taken (by simp [members])
  have hbefore : slots.required "before" (Json.Decode.list Json.Decode.string) = .ok c.before :=
    hold.required rfl (Json.decodes_strings c.before)
  have hline : slots.required "errorLine" Json.Decode.string = .ok c.errorLine :=
    hold.required rfl (Json.decodes_string c.errorLine)
  have hafter : slots.required "after" (Json.Decode.list Json.Decode.string) = .ok c.after :=
    hold.required rfl (Json.decodes_strings c.after)
  rw [ofJson, to_json_eq, hopen]
  simp only [bind, Except.bind, hbefore, hline, hafter]
  rfl

theorem outline_covers (c : CodeContext) : shape.outline.Covers c.toJson :=
  shape.outline_covers (by simp [shape, Json.Field.of]) c.members
    fun m hm => (c.members_taken m hm).fits

end CodeContext

namespace CodeExample

/-- The members of the object of an example. -/
def members (e : CodeExample) : List (String × Json.Value) :=
  [("wrong", .string e.wrong), ("correct", .string e.correct)]

theorem to_json_eq (e : CodeExample) : e.toJson = .object e.members := rfl

theorem members_taken (e : CodeExample) : ∀ m ∈ e.members, shape.Takes m := by
  intro m hm
  simp only [members, List.mem_cons, List.not_mem_nil, or_false] at hm
  rcases hm with rfl | rfl
  · exact ⟨_, rfl, rfl, (Json.decodes_string e.wrong).check⟩
  · exact ⟨_, rfl, rfl, (Json.decodes_string e.correct).check⟩

theorem decodes_to_json (e : CodeExample) : Decodes ofJson e.toJson e := by
  intro g hg
  obtain ⟨slots, hopen, hold⟩ :=
    shape.open_any_arranged hg e.members_taken (by simp [members])
  have hwrong : slots.required "wrong" Json.Decode.string = .ok e.wrong :=
    hold.required rfl (Json.decodes_string e.wrong)
  have hcorrect : slots.required "correct" Json.Decode.string = .ok e.correct :=
    hold.required rfl (Json.decodes_string e.correct)
  rw [ofJson, to_json_eq, hopen]
  simp only [bind, Except.bind, hwrong, hcorrect]
  rfl

theorem outline_covers (e : CodeExample) : shape.outline.Covers e.toJson :=
  shape.outline_covers (by simp [shape, Json.Field.of]) e.members
    fun m hm => (e.members_taken m hm).fits

end CodeExample

namespace Diagnostic

/-- The object of details. -/
def detailsJson (details : List (String × String)) : Json.Value :=
  .object (details.map fun m => (m.1, .string m.2))

/-- The members of the object of a diagnostic. -/
def members (d : Diagnostic) : List (String × Json.Value) :=
  [("category", d.category.toJson), ("title", .string d.title),
      ("description", .string d.description)]
    ++ Json.Value.member? "lineNumber" .nat d.lineNumber
    ++ Json.Value.member? "codeContext" CodeContext.toJson d.codeContext
    ++ [("suggestions", .strings d.suggestions)]
    ++ Json.Value.member? "example" CodeExample.toJson d.sample
    ++ Json.Value.member? "details" detailsJson (Json.unlessEmpty d.details)
    ++ Json.Value.member? "debugTips" .strings (Json.unlessEmpty d.debugTips)
    ++ Json.Value.member? "rawError" .string d.rawError

theorem to_json_eq (d : Diagnostic) : d.toJson = .object d.members := by
  cases hdetails : d.details <;> cases htips : d.debugTips <;>
    simp [toJson, members, hdetails, htips, listMember?, Json.unlessEmpty, Json.Value.member?,
      detailsJson]

theorem keys_nodup (d : Diagnostic) : (d.members.map (·.1)).Nodup := by
  have hsub : (d.members.map (·.1)).Sublist
      (["category", "title", "description"] ++ ["lineNumber"] ++ ["codeContext"] ++ ["suggestions"]
        ++ ["example"] ++ ["details"] ++ ["debugTips"] ++ ["rawError"]) := by
    simp only [members, List.map_append]
    repeat' apply List.Sublist.append
    all_goals first | exact Json.keys_member_sublist _ _ _ | exact List.Sublist.refl _
  exact hsub.nodup (by decide)

theorem decodes_code_context (c : CodeContext) :
    Decodes (Json.Decode.option CodeContext.ofJson) c.toJson (some c) :=
  Json.decodes_some c.decodes_to_json nofun

theorem decodes_sample (e : CodeExample) :
    Decodes (Json.Decode.option CodeExample.ofJson) e.toJson (some e) :=
  Json.decodes_some e.decodes_to_json nofun

theorem decodes_details {details : List (String × String)} (h : Json.Ascending details) :
    Decodes (Json.Decode.map Json.Decode.string) (detailsJson details) details :=
  Json.decodes_map h fun m _ => Json.decodes_string m.2

theorem members_taken {d : Diagnostic} (h : Json.Ascending d.details) :
    ∀ m ∈ d.members, shape.Takes m := by
  intro m hm
  simp only [members, List.mem_append, List.mem_cons, List.not_mem_nil, or_false] at hm
  rcases hm with (((((((rfl | rfl | rfl) | hm) | hm) | rfl) | hm) | hm) | hm) | hm
  · exact ⟨_, rfl, rfl, d.category.decodes_to_json.check⟩
  · exact ⟨_, rfl, rfl, (Json.decodes_string d.title).check⟩
  · exact ⟨_, rfl, rfl, (Json.decodes_string d.description).check⟩
  · obtain ⟨n, -, rfl⟩ := Json.mem_member hm
    exact ⟨_, rfl, rfl, (Json.decodes_option_size n).check⟩
  · obtain ⟨c, -, rfl⟩ := Json.mem_member hm
    exact ⟨_, rfl, rfl, (decodes_code_context c).check⟩
  · exact ⟨_, rfl, rfl, (Json.decodes_strings d.suggestions).check⟩
  · obtain ⟨e, -, rfl⟩ := Json.mem_member hm
    exact ⟨_, rfl, rfl, (decodes_sample e).check⟩
  · obtain ⟨details, hdetails, rfl⟩ := Json.mem_member hm
    rw [Json.eq_of_mem_unless_empty hdetails]
    exact ⟨_, rfl, rfl, (decodes_details h).check⟩
  · obtain ⟨tips, -, rfl⟩ := Json.mem_member hm
    exact ⟨_, rfl, rfl, (Json.decodes_strings tips).check⟩
  · obtain ⟨s, -, rfl⟩ := Json.mem_member hm
    exact ⟨_, rfl, rfl, (Json.decodes_option_string s).check⟩

theorem lookup_members (d : Diagnostic) :
    d.members.lookup "category" = some d.category.toJson ∧
    d.members.lookup "title" = some (.string d.title) ∧
    d.members.lookup "description" = some (.string d.description) ∧
    d.members.lookup "lineNumber" = d.lineNumber.map .nat ∧
    d.members.lookup "codeContext" = d.codeContext.map CodeContext.toJson ∧
    d.members.lookup "suggestions" = some (.strings d.suggestions) ∧
    d.members.lookup "example" = d.sample.map CodeExample.toJson ∧
    d.members.lookup "details" = (Json.unlessEmpty d.details).map detailsJson ∧
    d.members.lookup "debugTips" = (Json.unlessEmpty d.debugTips).map .strings ∧
    d.members.lookup "rawError" = d.rawError.map .string := by
  simp [members, List.lookup_append, Json.lookup_member, List.lookup]

/-- A diagnostic with its details in order is decoded from its object. -/
theorem decodes_to_json {d : Diagnostic} (h : Json.Ascending d.details) :
    Decodes ofJson d.toJson d := by
  intro g hg
  obtain ⟨slots, hopen, hold⟩ := shape.open_any_arranged hg (members_taken h) d.keys_nodup
  obtain ⟨hcategory, htitle, hdescription, hnumber, hcontext, hsuggestions, hsample, hdetails,
    htips, hraw⟩ := d.lookup_members
  replace hcategory := hold.required hcategory d.category.decodes_to_json
  replace htitle := hold.required htitle (Json.decodes_string d.title)
  replace hdescription := hold.required hdescription (Json.decodes_string d.description)
  replace hnumber := hold.optional_member hnumber fun n _ => Json.decodes_option_size n
  replace hcontext := hold.optional_member hcontext fun c _ => decodes_code_context c
  replace hsuggestions := hold.required hsuggestions (Json.decodes_strings d.suggestions)
  replace hsample := hold.optional_member hsample fun e _ => decodes_sample e
  replace hdetails := hold.list_unless_empty hdetails (decodes_details h)
  replace htips := hold.list_unless_empty htips (Json.decodes_strings d.debugTips)
  replace hraw := hold.optional_member hraw fun s _ => Json.decodes_option_string s
  rw [ofJson, to_json_eq, hopen]
  simp only [bind, Except.bind, hcategory, htitle, hdescription, hnumber, hcontext, hsuggestions,
    hsample, hdetails, htips, hraw]
  rfl

theorem decodes_option {d : Diagnostic} (h : Json.Ascending d.details) :
    Decodes (Json.Decode.option ofJson) d.toJson (some d) :=
  Json.decodes_some (decodes_to_json h) nofun

/-- Of a diagnostic all is looked at that is written of it. -/
theorem outline_covers (d : Diagnostic) : shape.outline.Covers d.toJson := by
  rw [to_json_eq]
  refine shape.outline_covers_of_fields fun m hm => ?_
  simp only [members, List.mem_append, List.mem_cons, List.not_mem_nil, or_false] at hm
  -- only the code and the example are structures, of which the known members are looked at
  rcases hm with (((((((rfl | rfl | rfl) | hm) | hm) | rfl) | hm) | hm) | hm) | hm
  · exact ⟨_, rfl, Json.Outline.whole_covers _⟩
  · exact ⟨_, rfl, Json.Outline.whole_covers _⟩
  · exact ⟨_, rfl, Json.Outline.whole_covers _⟩
  · obtain ⟨n, -, rfl⟩ := Json.mem_member hm
    exact ⟨_, rfl, Json.Outline.whole_covers _⟩
  · obtain ⟨c, -, rfl⟩ := Json.mem_member hm
    exact ⟨_, rfl, c.outline_covers⟩
  · exact ⟨_, rfl, Json.Outline.whole_covers _⟩
  · obtain ⟨e, -, rfl⟩ := Json.mem_member hm
    exact ⟨_, rfl, e.outline_covers⟩
  · obtain ⟨details, -, rfl⟩ := Json.mem_member hm
    exact ⟨_, rfl, Json.Outline.whole_covers _⟩
  · obtain ⟨tips, -, rfl⟩ := Json.mem_member hm
    exact ⟨_, rfl, Json.Outline.whole_covers _⟩
  · obtain ⟨s, -, rfl⟩ := Json.mem_member hm
    exact ⟨_, rfl, Json.Outline.whole_covers _⟩

/-- The details of a diagnostic that was decoded are in order. -/
theorem ascending_details {v : Json.Value} {d : Diagnostic} (h : ofJson v = .ok d) :
    Json.Ascending d.details := by
  rw [ofJson] at h
  obtain ⟨slots, -, h⟩ := Json.bind_eq_ok.mp h
  obtain ⟨category, -, h⟩ := Json.bind_eq_ok.mp h
  obtain ⟨title, -, h⟩ := Json.bind_eq_ok.mp h
  obtain ⟨description, -, h⟩ := Json.bind_eq_ok.mp h
  obtain ⟨number, -, h⟩ := Json.bind_eq_ok.mp h
  obtain ⟨context, -, h⟩ := Json.bind_eq_ok.mp h
  obtain ⟨suggestions, -, h⟩ := Json.bind_eq_ok.mp h
  obtain ⟨sample, -, h⟩ := Json.bind_eq_ok.mp h
  obtain ⟨details, hdetails, h⟩ := Json.bind_eq_ok.mp h
  obtain ⟨tips, -, h⟩ := Json.bind_eq_ok.mp h
  obtain ⟨raw, -, h⟩ := Json.bind_eq_ok.mp h
  cases h
  exact Json.ascending_of_default_map hdetails

end Diagnostic

end CodeJudge
