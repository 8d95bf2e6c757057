import CodeJudge.Outcome
import CodeJudge.Proofs.Diagnostic.Json
/-!
Outcomes as data. An outcome keeps the members of its object that are no fields of its own, and what
was decoded is in a normal form: the kept members are sorted and none of them is a field. An outcome
in this form is decoded from its object again.
-/
namespace CodeJudge

open Json (Decodes)

theorem ExecutionStatus.decodes_to_json (s : ExecutionStatus) : Decodes ofJson s.toJson s :=
  Json.decodes_variant (by cases s <;> rfl) _

theorem Verdict.decodes_to_json (v : Verdict) : Decodes ofJson v.toJson v :=
  Json.decodes_variant (by cases v <;> rfl) _

namespace ExecutionOutcome

/-- What holds of every outcome that was decoded: its free-form data are sorted, and no member that
it keeps is one of its fields. -/
structure IsNormal (o : ExecutionOutcome) : Prop where
  sorted_id : ∀ v ∈ o.testCaseId, v.sorted = v
  id_ne_null : ∀ v ∈ o.testCaseId, v ≠ .null
  ascending_details : ∀ d ∈ o.diagnostic, Json.Ascending d.details
  ascending_extra : Json.Ascending o.extra
  sorted_extra : ∀ m ∈ o.extra, m.2.sorted = m.2
  other_extra : ∀ m ∈ o.extra, shape.field? m.1 = none

/-- The members of the object that are fields. -/
def fieldMembers (o : ExecutionOutcome) : List (String × Json.Value) :=
  Json.Value.member? "status" ExecutionStatus.toJson o.status
    ++ Json.Value.member? "verdict" Verdict.toJson o.verdict
    ++ Json.Value.member? "testCaseId" id o.testCaseId
    ++ Json.Value.member? "error" .string o.error
    ++ Json.Value.member? "compileOutput" .string o.compileOutput
    ++ Json.Value.member? "diagnostic" Diagnostic.toJson o.diagnostic

theorem members_eq (o : ExecutionOutcome) : o.members = o.fieldMembers ++ o.extra := rfl

theorem keys_sublist (o : ExecutionOutcome) :
    (o.fieldMembers.map (·.1)).Sublist (shape.fields.map (·.name)) := by
  have hsub : (o.fieldMembers.map (·.1)).Sublist (["status"] ++ ["verdict"] ++ ["testCaseId"]
      ++ ["error"] ++ ["compileOutput"] ++ ["diagnostic"]) := by
    simp only [fieldMembers, List.map_append]
    repeat' apply List.Sublist.append
    all_goals exact Json.keys_member_sublist _ _ _
  exact hsub

theorem keys_nodup (o : ExecutionOutcome) : (o.fieldMembers.map (·.1)).Nodup :=
  o.keys_sublist.nodup (by decide)

theorem decodes_status (s : ExecutionStatus) :
    Decodes (Json.Decode.option ExecutionStatus.ofJson) s.toJson (some s) :=
  Json.decodes_some s.decodes_to_json nofun

theorem decodes_verdict (v : Verdict) :
    Decodes (Json.Decode.option Verdict.ofJson) v.toJson (some v) :=
  Json.decodes_some v.decodes_to_json nofun

theorem decodes_id {o : ExecutionOutcome} (h : o.IsNormal) {v : Json.Value}
    (hv : v ∈ o.testCaseId) : Decodes (Json.Decode.option Json.Decode.any) v (some v) :=
  Json.decodes_some (Json.decodes_any (h.sorted_id v hv)) (h.id_ne_null v hv)

theorem members_taken {o : ExecutionOutcome} (h : o.IsNormal) :
    ∀ m ∈ o.fieldMembers, shape.Takes m := by
  intro m hm
  simp only [fieldMembers, List.mem_append] at hm
  rcases hm with ((((hm | hm) | hm) | hm) | hm) | hm
  · obtain ⟨s, -, rfl⟩ := Json.mem_member hm
    exact ⟨_, rfl, rfl, (decodes_status s).check⟩
  · obtain ⟨v, -, rfl⟩ := Json.mem_member hm
    exact ⟨_, rfl, rfl, (decodes_verdict v).check⟩
  · obtain ⟨v, hv, rfl⟩ := Json.mem_member hm
    exact ⟨_, rfl, rfl, (decodes_id h hv).check⟩
  · obtain ⟨s, -, rfl⟩ := Json.mem_member hm
    exact ⟨_, rfl, rfl, (Json.decodes_option_string s).check⟩
  · obtain ⟨s, -, rfl⟩ := Json.mem_member hm
    exact ⟨_, rfl, rfl, (Json.decodes_option_string s).check⟩
  · obtain ⟨d, hd, rfl⟩ := Json.mem_member hm
    exact ⟨_, rfl, rfl, (Diagnostic.decodes_option (h.ascending_details d hd)).check⟩

theorem lookup_members (o : ExecutionOutcome) :
    o.fieldMembers.lookup "status" = o.status.map ExecutionStatus.toJson ∧
    o.fieldMembers.lookup "verdict" = o.verdict.map Verdict.toJson ∧
    o.fieldMembers.lookup "testCaseId" = o.testCaseId.map id ∧
    o.fieldMembers.lookup "error" = o.error.map .string ∧
    o.fieldMembers.lookup "compileOutput" = o.compileOutput.map .string ∧
    o.fieldMembers.lookup "diagnostic" = o.diagnostic.map Diagnostic.toJson := by
  simp [fieldMembers, List.lookup_append, Json.lookup_member]

/-- An outcome in the normal form is decoded from its members in any order. -/
theorem of_json_arranged {o : ExecutionOutcome} (h : o.IsNormal) {g : Json.Value → Json.Value}
    (hg : Json.IsArrangement g) {ns : List (String × Json.Value)}
    (hp : ns.Perm (Json.mapValues g o.members)) : ofJson (.object ns) = .ok o := by
  rw [members_eq] at hp
  obtain ⟨slots, others, hopen, hold, hothers⟩ :=
    shape.open_object_arranged hg (members_taken h) h.other_extra o.keys_nodup hp
  obtain ⟨hstatus, hverdict, hid, herror, hcompile, hdiagnostic⟩ := o.lookup_members
  replace hstatus := hold.optional_member hstatus fun s _ => decodes_status s
  replace hverdict := hold.optional_member hverdict fun v _ => decodes_verdict v
  replace hid := hold.optional_member hid fun v hv => decodes_id h hv
  replace herror := hold.optional_member herror fun s _ => Json.decodes_option_string s
  replace hcompile := hold.optional_member hcompile fun s _ => Json.decodes_option_string s
  replace hdiagnostic := hold.optional_member hdiagnostic fun d hd =>
    Diagnostic.decodes_option (h.ascending_details d hd)
  have hextra : Json.sortMembers (others.map fun m => (m.1, m.2.sorted)) = o.extra := by
    refine Json.sort_members_of_perm ?_ h.ascending_extra
    have hperm := hothers.map fun m => (m.1, m.2.sorted)
    -- an arrangement leaves the sorted form, in which the kept members are already
    exact hperm.trans (.of_eq (hg.sorted_map_values h.sorted_extra))
  rw [ofJson]
  simp only [hopen, bind, Except.bind, hstatus, hverdict, hid, herror, hcompile, hdiagnostic,
    hextra]
  rfl

/-- The keys of the members are different: none that is kept is a field. -/
theorem members_keys_nodup {o : ExecutionOutcome} (h : o.IsNormal) :
    (o.members.map (·.1)).Nodup := by
  rw [members_eq, List.map_append]
  refine o.keys_nodup.append h.ascending_extra.nodup_keys ?_
  intro key hfield hextra
  obtain ⟨m, hm, rfl⟩ := List.mem_map.mp hextra
  have hname := o.keys_sublist.subset hfield
  exact (Json.Shape.field_eq_none_iff (by simp [shape, Json.Field.of]) m.1).mp
    (h.other_extra m hm) hname

theorem decodes_to_json {o : ExecutionOutcome} (h : o.IsNormal) :
    Decodes ofJson o.toJson o := by
  intro g hg
  obtain ⟨ns, hp, hobject⟩ := hg.object o.members (members_keys_nodup h)
  rw [toJson, hobject]
  exact of_json_arranged h hg hp

/-- What decoding an outcome does: the fields are looked up, and the members that are no fields are
kept in their sorted form. -/
theorem exists_of_json {v : Json.Value} {o : ExecutionOutcome} (h : ofJson v = .ok o) :
    ∃ ms slots, v = .object ms ∧ shape.ofMembers [] ms = .ok slots ∧
      slots.optional "status" ExecutionStatus.ofJson = .ok o.status ∧
      slots.optional "verdict" Verdict.ofJson = .ok o.verdict ∧
      slots.optional "testCaseId" Json.Decode.any = .ok o.testCaseId ∧
      slots.optional "error" Json.Decode.string = .ok o.error ∧
      slots.optional "compileOutput" Json.Decode.string = .ok o.compileOutput ∧
      slots.optional "diagnostic" Diagnostic.ofJson = .ok o.diagnostic ∧
      o.extra = Json.sortMembers (Json.mapValues Json.Value.sorted (shape.others ms)) := by
  rw [ofJson] at h
  obtain ⟨⟨slots, others⟩, hopen, h⟩ := Json.bind_eq_ok.mp h
  obtain ⟨status, hstatus, h⟩ := Json.bind_eq_ok.mp h
  obtain ⟨verdict, hverdict, h⟩ := Json.bind_eq_ok.mp h
  obtain ⟨id, hid, h⟩ := Json.bind_eq_ok.mp h
  obtain ⟨error, herror, h⟩ := Json.bind_eq_ok.mp h
  obtain ⟨compile, hcompile, h⟩ := Json.bind_eq_ok.mp h
  obtain ⟨diagnostic, hdiagnostic, h⟩ := Json.bind_eq_ok.mp h
  cases h
  obtain ⟨ms, rfl, hread, rfl⟩ := shape.exists_of_open_object hopen
  exact ⟨ms, slots, rfl, hread, hstatus, hverdict, hid, herror, hcompile, hdiagnostic, rfl⟩

/-- A member that a decoded outcome keeps is one of the object and no field. -/
theorem mem_extra_of_json {ms : List (String × Json.Value)} {o : ExecutionOutcome}
    (h : ofJson (.object ms) = .ok o) {m : String × Json.Value} (hm : m ∈ o.extra) :
    shape.field? m.1 = none ∧ ∃ v, (m.1, v) ∈ ms ∧ m.2 = v.sorted := by
  obtain ⟨_, slots, hobject, -, -, -, -, -, -, -, hextra⟩ := exists_of_json h
  cases hobject
  rw [hextra] at hm
  obtain ⟨n, hn, rfl⟩ := List.mem_map.mp (Json.mem_of_mem_sort_members hm)
  obtain ⟨hmem, hnone⟩ := List.mem_filter.mp hn
  exact ⟨by simpa using hnone, n.2, hmem, rfl⟩

theorem is_normal_of_json {v : Json.Value} {o : ExecutionOutcome} (h : ofJson v = .ok o) :
    o.IsNormal := by
  obtain ⟨ms, slots, rfl, -, -, -, hid, -, -, hdiagnostic, hextra⟩ := exists_of_json h
  -- all free-form data are sorted when they are decoded
  exact {
    sorted_id := by
      intro v hv
      obtain ⟨w, -, hw⟩ := Json.exists_of_optional hid v hv
      cases hw
      exact w.sorted_sorted
    id_ne_null := by
      intro v hv
      obtain ⟨w, hne, hw⟩ := Json.exists_of_optional hid v hv
      cases hw
      exact Json.is_arrangement_sorted.ne_null hne
    ascending_details := by
      intro d hd
      obtain ⟨w, -, hw⟩ := Json.exists_of_optional hdiagnostic d hd
      exact Diagnostic.ascending_details hw
    ascending_extra := by
      rw [hextra]
      exact Json.ascending_sort_members _
    sorted_extra := by
      intro m hm
      obtain ⟨-, w, -, hw⟩ := mem_extra_of_json h hm
      rw [hw, w.sorted_sorted]
    other_extra := fun m hm => (mem_extra_of_json h hm).1 }

end ExecutionOutcome

end CodeJudge
