import CodeJudge.Json.Document
import CodeJudge.Proofs.Report.Batch
import CodeJudge.Proofs.Report.Outcome
/-!
Reports as data. A result has the members of its outcome beside its own annotations in one object,
so a report is decoded again exactly if no outcome keeps a member under the name of an annotation.
-/
namespace CodeJudge

open Json (Decodes)

theorem PresentationCategory.decodes_to_json (c : PresentationCategory) :
    Decodes ofJson c.toJson c :=
  Json.decodes_variant (by cases c <;> rfl) none

theorem PresentationKind.decodes_to_json (k : PresentationKind) : Decodes ofJson k.toJson k :=
  Json.decodes_variant (by cases k <;> rfl) none

namespace Presentation

/-- The members of the object of a presentation. -/
def members (p : Presentation) : List (String × Json.Value) :=
  [("category", p.category.toJson), ("type", p.kind.toJson),
      ("showInEditor", .bool p.showInEditor), ("showInResults", .bool p.showInResults),
      ("title", .string p.title), ("message", .string p.message),
      ("details", Json.Value.ofOption .string p.details)]
    ++ Json.Value.member? "diagnostic" Diagnostic.toJson p.diagnostic

theorem to_json_eq (p : Presentation) : p.toJson = .object p.members := rfl

theorem keys_nodup (p : Presentation) : (p.members.map (·.1)).Nodup := by
  have hsub : (p.members.map (·.1)).Sublist (["category", "type", "showInEditor", "showInResults",
      "title", "message", "details"] ++ ["diagnostic"]) := by
    rw [members, List.map_append]
    exact (List.Sublist.refl _).append (Json.keys_member_sublist _ _ _)
  exact hsub.nodup (by decide)

theorem decodes_details (details : Option String) :
    Decodes (Json.Decode.option Json.Decode.string) (Json.Value.ofOption .string details)
      details :=
  Json.decodes_of_option (fun s _ => Json.decodes_string s) nofun

theorem members_taken {p : Presentation} (h : ∀ d ∈ p.diagnostic, Json.Ascending d.details) :
    ∀ m ∈ p.members, shape.Takes m := by
  intro m hm
  simp only [members, List.mem_append, List.mem_cons, List.not_mem_nil, or_false] at hm
  rcases hm with (rfl | rfl | rfl | rfl | rfl | rfl | rfl) | hm
  · exact ⟨_, rfl, rfl, p.category.decodes_to_json.check⟩
  · exact ⟨_, rfl, rfl, p.kind.decodes_to_json.check⟩
  · exact ⟨_, rfl, rfl, (Json.decodes_bool p.showInEditor).check⟩
  · exact ⟨_, rfl, rfl, (Json.decodes_bool p.showInResults).check⟩
  · exact ⟨_, rfl, rfl, (Json.decodes_string p.title).check⟩
  · exact ⟨_, rfl, rfl, (Json.decodes_string p.message).check⟩
  · exact ⟨_, rfl, rfl, (decodes_details p.details).check⟩
  · obtain ⟨d, hd, rfl⟩ := Json.mem_member hm
    exact ⟨_, rfl, rfl, (Diagnostic.decodes_option (h d hd)).check⟩

theorem lookup_members (p : Presentation) :
    p.members.lookup "category" = some p.category.toJson ∧
    p.members.lookup "type" = some p.kind.toJson ∧
    p.members.lookup "showInEditor" = some (.bool p.showInEditor) ∧
    p.members.lookup "showInResults" = some (.bool p.showInResults) ∧
    p.members.lookup "title" = some (.string p.title) ∧
    p.members.lookup "message" = some (.string p.message) ∧
    p.members.lookup "details" = some (Json.Value.ofOption .string p.details) ∧
    p.members.lookup "diagnostic" = p.diagnostic.map Diagnostic.toJson := by
  simp [members, Json.lookup_member, List.lookup]

theorem decodes_to_json {p : Presentation} (h : ∀ d ∈ p.diagnostic, Json.Ascending d.details) :
    Decodes ofJson p.toJson p := by
  intro g hg
  obtain ⟨slots, hopen, hold⟩ := shape.open_any_arranged hg (members_taken h) p.keys_nodup
  obtain ⟨hcategory, hkind, heditor, hresults, htitle, hmessage, hdetails, hdiagnostic⟩ :=
    p.lookup_members
  replace hcategory := hold.required hcategory p.category.decodes_to_json
  replace hkind := hold.required hkind p.kind.decodes_to_json
  replace heditor := hold.required heditor (Json.decodes_bool p.showInEditor)
  replace hresults := hold.required hresults (Json.decodes_bool p.showInResults)
  replace htitle := hold.required htitle (Json.decodes_string p.title)
  replace hmessage := hold.required hmessage (Json.decodes_string p.message)
  replace hdetails := hold.optional hdetails (decodes_details p.details)
  replace hdiagnostic := hold.optional_member hdiagnostic fun d hd =>
    Diagnostic.decodes_option (h d hd)
  rw [ofJson, to_json_eq, hopen]
  simp only [bind, Except.bind, hcategory, hkind, heditor, hresults, htitle, hmessage, hdetails,
    hdiagnostic]
  rfl

theorem survives_to_json {p : Presentation} (h : ∀ d ∈ p.diagnostic, d.toJson.Survives) :
    p.toJson.Survives := by
  refine (Json.Value.survives_members_iff p.members).mpr ?_
  intro m hm
  simp only [members, List.mem_append, List.mem_cons, List.not_mem_nil, or_false] at hm
  have hdetails : (Json.Value.ofOption .string p.details).Survives := by
    cases p.details <;> trivial
  rcases hm with hm | hm
  · -- only the diagnostic has numbers
    rcases hm with rfl | rfl | rfl | rfl | rfl | rfl | rfl
    all_goals trivial
  · obtain ⟨d, hd, rfl⟩ := Json.mem_member hm
    exact h d hd

end Presentation

namespace TestCaseResult

/-- The names of the annotations. -/
def annotations : List String := shape.fields.map (·.name)

theorem not_annotation_iff (key : String) : key ∉ annotations ↔ shape.field? key = none :=
  (Json.Shape.field_eq_none_iff (by simp [shape, Json.Field.of]) key).symm

/-- The members of the object of a result that are its own. -/
def annotationMembers (r : TestCaseResult) : List (String × Json.Value) :=
  [("errorCategory", r.errorCategory.toJson), ("errorType", r.errorType.toJson),
    ("showInEditor", .bool r.showInEditor), ("showInResults", .bool r.showInResults)]

theorem to_json_eq (r : TestCaseResult) :
    r.toJson = .object (r.outcome.members ++ r.annotationMembers) := rfl

theorem nodup_annotations (r : TestCaseResult) : (r.annotationMembers.map (·.1)).Nodup := by
  have hkeys : r.annotationMembers.map (·.1) = annotations := rfl
  rw [hkeys]
  decide

theorem annotations_taken (r : TestCaseResult) : ∀ m ∈ r.annotationMembers, shape.Takes m := by
  intro m hm
  simp only [annotationMembers, List.mem_cons, List.not_mem_nil, or_false] at hm
  rcases hm with rfl | rfl | rfl | rfl
  · exact ⟨_, rfl, rfl, r.errorCategory.decodes_to_json.check⟩
  · exact ⟨_, rfl, rfl, r.errorType.decodes_to_json.check⟩
  · exact ⟨_, rfl, rfl, (Json.decodes_bool r.showInEditor).check⟩
  · exact ⟨_, rfl, rfl, (Json.decodes_bool r.showInResults).check⟩

end TestCaseResult

namespace ExecutionOutcome

/-- No member that the outcome keeps has the name of an annotation. -/
def IsUnannotated (o : ExecutionOutcome) : Prop :=
  ∀ m ∈ o.extra, m.1 ∉ TestCaseResult.annotations

instance (o : ExecutionOutcome) : Decidable o.IsUnannotated :=
  inferInstanceAs (Decidable (∀ m ∈ o.extra, _))

theorem field_key_not_annotation {o : ExecutionOutcome} {m : String × Json.Value}
    (h : m ∈ o.fieldMembers) : m.1 ∉ TestCaseResult.annotations := by
  have hapart : ∀ key ∈ shape.fields.map (·.name), key ∉ TestCaseResult.annotations := by decide
  exact hapart m.1 (o.keys_sublist.subset (List.mem_map_of_mem h))

end ExecutionOutcome

namespace TestCaseResult

/-- The members of an outcome are no annotations unless it keeps one of that name. -/
theorem members_not_annotations {o : ExecutionOutcome} (h : o.IsUnannotated) :
    ∀ m ∈ o.members, m.1 ∉ annotations := by
  intro m hm
  rcases List.mem_append.mp hm with hm | hm
  · exact ExecutionOutcome.field_key_not_annotation hm
  · exact h m hm

theorem keys_nodup {r : TestCaseResult} (hn : r.outcome.IsNormal)
    (hu : r.outcome.IsUnannotated) :
    ((r.outcome.members ++ r.annotationMembers).map (·.1)).Nodup := by
  have hmembers := ExecutionOutcome.members_keys_nodup hn
  rw [List.map_append]
  refine hmembers.append r.nodup_annotations ?_
  intro key hmember hannotation
  obtain ⟨m, hm, rfl⟩ := List.mem_map.mp hmember
  exact members_not_annotations hu m hm hannotation

/-- A result whose outcome leaves the annotations alone is decoded from its object. -/
theorem decodes_to_json {r : TestCaseResult} (hn : r.outcome.IsNormal)
    (hu : r.outcome.IsUnannotated) : Decodes ofJson r.toJson r := by
  intro g hg
  obtain ⟨ns, hp, hobject⟩ := hg.object _ (keys_nodup hn hu)
  -- to the result the annotations are fields, and the members of the outcome are left over
  have hp : ns.Perm (Json.mapValues g (r.annotationMembers ++ r.outcome.members)) :=
    hp.trans (List.perm_append_comm.map _)
  obtain ⟨slots, others, hopen, hold, hothers⟩ := shape.open_object_arranged hg
    r.annotations_taken (fun m hm => (not_annotation_iff m.1).mp (members_not_annotations hu m hm))
    r.nodup_annotations hp
  have hcategory : slots.required "errorCategory" PresentationCategory.ofJson =
      .ok r.errorCategory := hold.required rfl r.errorCategory.decodes_to_json
  have htype : slots.required "errorType" PresentationKind.ofJson = .ok r.errorType :=
    hold.required rfl r.errorType.decodes_to_json
  have heditor : slots.required "showInEditor" Json.Decode.bool = .ok r.showInEditor :=
    hold.required rfl (Json.decodes_bool r.showInEditor)
  have hresults : slots.required "showInResults" Json.Decode.bool = .ok r.showInResults :=
    hold.required rfl (Json.decodes_bool r.showInResults)
  have houtcome := ExecutionOutcome.of_json_arranged hn hg hothers
  rw [to_json_eq, hobject, ofJson]
  simp only [hopen, bind, Except.bind, hcategory, htype, heditor, hresults, houtcome]
  rfl

/-- From no object a result is decoded whose outcome keeps a member under the name of an
annotation. -/
theorem unannotated_of_json {v : Json.Value} {r : TestCaseResult} (h : ofJson v = .ok r) :
    r.outcome.IsUnannotated := by
  rw [ofJson] at h
  obtain ⟨⟨slots, others⟩, hopen, h⟩ := Json.bind_eq_ok.mp h
  obtain ⟨category, -, h⟩ := Json.bind_eq_ok.mp h
  obtain ⟨kind, -, h⟩ := Json.bind_eq_ok.mp h
  obtain ⟨editor, -, h⟩ := Json.bind_eq_ok.mp h
  obtain ⟨results, -, h⟩ := Json.bind_eq_ok.mp h
  obtain ⟨o, ho, h⟩ := Json.bind_eq_ok.mp h
  cases h
  obtain ⟨ms, -, -, rfl⟩ := shape.exists_of_open_object hopen
  intro m hm
  -- what the outcome keeps is left over by the annotations
  obtain ⟨-, w, hw, -⟩ := ExecutionOutcome.mem_extra_of_json (Json.map_error_eq_ok.mp ho) hm
  rw [not_annotation_iff]
  simpa using (List.mem_filter.mp hw).2

end TestCaseResult

namespace BatchReport

/-- The members of the object of a report. -/
def members (r : BatchReport) : List (String × Json.Value) :=
  [("editorError", Json.Value.ofOption Presentation.toJson r.editorError),
    ("testCaseResults", .array (r.testCaseResults.map TestCaseResult.toJson)),
    ("hasEditorError", .bool r.hasEditorError), ("hasTestCaseErrors", .bool r.hasTestCaseErrors)]

theorem to_json_eq (r : BatchReport) : r.toJson = .object r.members := rfl

/-- The parts of the report are in the forms that decode again. -/
structure IsNormal (r : BatchReport) : Prop where
  ascending_details : ∀ p ∈ r.editorError, ∀ d ∈ p.diagnostic, Json.Ascending d.details
  normal_outcomes : ∀ t ∈ r.testCaseResults, t.outcome.IsNormal

variable {r : BatchReport}

theorem decodes_editor_error (h : r.IsNormal) : Decodes (Json.Decode.option Presentation.ofJson)
    (Json.Value.ofOption Presentation.toJson r.editorError) r.editorError := by
  refine Json.decodes_of_option ?_ ?_
  · exact fun p hp => Presentation.decodes_to_json (h.ascending_details p hp)
  · intro p _
    rw [Presentation.to_json_eq]
    exact Json.Value.noConfusion

theorem decodes_results (h : r.IsNormal)
    (hu : ∀ t ∈ r.testCaseResults, t.outcome.IsUnannotated) :
    Decodes (Json.Decode.list TestCaseResult.ofJson)
      (.array (r.testCaseResults.map TestCaseResult.toJson)) r.testCaseResults :=
  Json.decodes_list fun t ht => TestCaseResult.decodes_to_json (h.normal_outcomes t ht) (hu t ht)

theorem members_taken (h : r.IsNormal) (hu : ∀ t ∈ r.testCaseResults, t.outcome.IsUnannotated) :
    ∀ m ∈ r.members, shape.Takes m := by
  intro m hm
  simp only [members, List.mem_cons, List.not_mem_nil, or_false] at hm
  rcases hm with rfl | rfl | rfl | rfl
  · exact ⟨_, rfl, rfl, (decodes_editor_error h).check⟩
  · exact ⟨_, rfl, rfl, (decodes_results h hu).check⟩
  · exact ⟨_, rfl, rfl, (Json.decodes_bool r.hasEditorError).check⟩
  · exact ⟨_, rfl, rfl, (Json.decodes_bool r.hasTestCaseErrors).check⟩

/-- A report is decoded from its object if no outcome keeps an annotation. -/
theorem decodes_to_json (h : r.IsNormal)
    (hu : ∀ t ∈ r.testCaseResults, t.outcome.IsUnannotated) : Decodes ofJson r.toJson r := by
  intro g hg
  have hkeys : (r.members.map (·.1)).Nodup := by simp [members]
  obtain ⟨slots, hopen, hold⟩ := shape.open_any_arranged hg (members_taken h hu) hkeys
  have herror : slots.optional "editorError" Presentation.ofJson = .ok r.editorError :=
    hold.optional rfl (decodes_editor_error h)
  have hresults : slots.required "testCaseResults" (Json.Decode.list TestCaseResult.ofJson) =
      .ok r.testCaseResults := hold.required rfl (decodes_results h hu)
  have heditor : slots.required "hasEditorError" Json.Decode.bool = .ok r.hasEditorError :=
    hold.required rfl (Json.decodes_bool r.hasEditorError)
  have htests : slots.required "hasTestCaseErrors" Json.Decode.bool = .ok r.hasTestCaseErrors :=
    hold.required rfl (Json.decodes_bool r.hasTestCaseErrors)
  rw [ofJson, to_json_eq, hopen]
  simp only [bind, Except.bind, herror, hresults, heditor, htests]
  rfl

/-- In a report that was decoded no outcome keeps an annotation. -/
theorem unannotated_of_json {v : Json.Value} (h : ofJson v = .ok r) :
    ∀ t ∈ r.testCaseResults, t.outcome.IsUnannotated := by
  rw [ofJson] at h
  obtain ⟨slots, -, h⟩ := Json.bind_eq_ok.mp h
  obtain ⟨error, -, h⟩ := Json.bind_eq_ok.mp h
  obtain ⟨results, hresults, h⟩ := Json.bind_eq_ok.mp h
  obtain ⟨editor, -, h⟩ := Json.bind_eq_ok.mp h
  obtain ⟨tests, -, h⟩ := Json.bind_eq_ok.mp h
  cases h
  rw [Json.Slots.required] at hresults
  split at hresults
  · intro t ht
    obtain ⟨w, hw⟩ := Json.exists_of_list hresults t ht
    exact TestCaseResult.unannotated_of_json hw
  · cases hresults

/-- A report is decoded from its object, in any arrangement, exactly if no outcome keeps an
annotation. -/
theorem of_json_arranged_iff (h : r.IsNormal) {g : Json.Value → Json.Value}
    (hg : Json.IsArrangement g) :
    ofJson (g r.toJson) = .ok r ↔ ∀ t ∈ r.testCaseResults, t.outcome.IsUnannotated :=
  ⟨unannotated_of_json, fun hu => decodes_to_json h hu g hg⟩

/-- The diagnostic that is shown is that of the outcome. -/
theorem diagnostic_of_presentation {o : ExecutionOutcome} {d : Diagnostic}
    (h : d ∈ o.presentation.diagnostic) : d ∈ o.diagnostic := by
  rw [ExecutionOutcome.presentation] at h
  dsimp only at h
  split_ifs at h
  · exact h
  · cases h

theorem is_normal_of_outcomes {os : List ExecutionOutcome} (h : ∀ o ∈ os, o.IsNormal) :
    (ofOutcomes os).IsNormal where
  ascending_details := by
    intro p hp d hd
    obtain ⟨o, ho, rfl⟩ := List.mem_map.mp (List.mem_of_find?_eq_some hp)
    exact (h o ho).ascending_details d (diagnostic_of_presentation hd)
  normal_outcomes := by
    intro t ht
    obtain ⟨o, ho, rfl⟩ := List.mem_map.mp ht
    exact h o ho

/-- A report has no numbers but those of its outcomes. -/
theorem survives_of_outcomes {os : List ExecutionOutcome} (h : ∀ o ∈ os, o.toJson.Survives) :
    (ofOutcomes os).toJson.Survives := by
  have hmembers : ∀ o ∈ os, ∀ m ∈ o.members, m.2.Survives :=
    fun o ho => (Json.Value.survives_members_iff o.members).mp (h o ho)
  refine (Json.Value.survives_members_iff (ofOutcomes os).members).mpr ?_
  simp only [members, List.forall_mem_cons]
  refine ⟨?_, ?_, trivial, trivial, nofun⟩
  · -- what the editor is shown comes from one of the outcomes
    cases hshown : (ofOutcomes os).editorError with
    | none => trivial
    | some p =>
      obtain ⟨o, ho, rfl⟩ := List.mem_map.mp (List.mem_of_find?_eq_some hshown)
      refine Presentation.survives_to_json fun d hd => ?_
      have hmem : ("diagnostic", d.toJson) ∈ o.members := by
        have hd := diagnostic_of_presentation hd
        simp [ExecutionOutcome.members_eq, ExecutionOutcome.fieldMembers, Json.Value.member?,
          Option.mem_def.mp hd]
      exact hmembers o ho _ hmem
  · refine (Json.Value.survives_items_iff _).mpr ?_
    intro v hv
    obtain ⟨t, ht, rfl⟩ := List.mem_map.mp hv
    obtain ⟨o, ho, rfl⟩ := List.mem_map.mp ht
    refine (Json.Value.survives_members_iff _).mpr ?_
    intro m hm
    rcases List.mem_append.mp hm with hm | hm
    · exact hmembers o ho m hm
    · simp only [List.mem_cons, List.not_mem_nil, or_false] at hm
      rcases hm with rfl | rfl | rfl | rfl <;> trivial

/-- The report of decoded outcomes is decoded again exactly if no outcome keeps a member under the
name of an annotation: from its value always, and from its text if the numbers of the outcomes are
read as they are written and the text has not too many levels. -/
theorem round_trips_iff {os : List ExecutionOutcome}
    (h : ∀ o ∈ os, ∃ v, ExecutionOutcome.ofJson v = .ok o) :
    (ofJson (ofOutcomes os).toJson.sorted = .ok (ofOutcomes os) ↔ ∀ o ∈ os, o.IsUnannotated) ∧
      ((∀ o ∈ os, o.toJson.Survives) →
        (Json.decodeText? ofJson .whole (ofOutcomes os).toJson.write = some (ofOutcomes os) ↔
          (∀ o ∈ os, o.IsUnannotated) ∧ (ofOutcomes os).toJson.depth ≤ Json.maxDepth)) := by
  have hnormal : (ofOutcomes os).IsNormal := by
    refine is_normal_of_outcomes fun o ho => ?_
    obtain ⟨v, hv⟩ := h o ho
    exact ExecutionOutcome.is_normal_of_json hv
  have hresults : (∀ t ∈ (ofOutcomes os).testCaseResults, t.outcome.IsUnannotated) ↔
      ∀ o ∈ os, o.IsUnannotated := List.forall_mem_map
  refine ⟨?_, fun hsurvives => ?_⟩
  · rw [of_json_arranged_iff hnormal Json.is_arrangement_sorted, hresults]
  · have hread := of_json_arranged_iff hnormal Json.is_arrangement_id
    rw [hresults] at hread
    rw [Json.decodeText?, Json.read_document_write (Json.Outline.whole_covers _)
      (survives_of_outcomes hsurvives)]
    split_ifs with hdepth
    · rw [Option.bind_some, and_iff_left hdepth, ← hread, id]
      cases ofJson (ofOutcomes os).toJson <;> simp [Except.toOption]
    · simp [hdepth]

/-- A failed compilation with a diagnostic, as data. -/
def failedCompilation : Json.Value :=
  .object [("status", .string "COMPILATION_ERROR"), ("compileOutput", .string "error: x"),
    ("diagnostic", .object [("category", .string "UNDEFINED_SYMBOL"),
      ("title", .string "Undefined"), ("description", .string "Not declared"),
      ("lineNumber", .number (.int 2)), ("suggestions", .array [.string "Declare it"]),
      ("details", .object [("name", .string "x"), ("kind", .string "variable")])])]

/-- A wrong answer with its outputs and its time, as data. -/
def wrongAnswer : Json.Value :=
  .object [("verdict", .string "WRONG_ANSWER"), ("testCaseId", .number (.int 7)),
    ("expectedOutput", .array [.number (.int 0), .number (.int 1)]),
    ("actualOutput", .object [("b", .null), ("a", .bool true)]),
    ("executionTime", .number (.float (.ofRatio false 3 2)))]

/-- The outcomes that the data say. -/
def shownOutcomes : List ExecutionOutcome :=
  [{ status := some .compilationError
     compileOutput := some "error: x"
     diagnostic := some ⟨.undefinedSymbol, "Undefined", "Not declared", some 2, none,
       ["Declare it"], none, [("kind", "variable"), ("name", "x")], [], none⟩ },
    { verdict := some .wrongAnswer
      testCaseId := some (.number (.int 7))
      extra := [("actualOutput", .object [("a", .bool true), ("b", .null)]),
        ("executionTime", .number (.float (.ofRatio false 3 2))),
        ("expectedOutput", .array [.number (.int 0), .number (.int 1)])] }]

theorem round_trips_of_shown_outcomes :
    (∀ o ∈ shownOutcomes, ∃ v, ExecutionOutcome.ofJson v = .ok o) ∧
      (∀ o ∈ shownOutcomes, o.toJson.Survives) ∧
      ofJson (ofOutcomes shownOutcomes).toJson.sorted = .ok (ofOutcomes shownOutcomes) ∧
      Json.decodeText? ofJson .whole (ofOutcomes shownOutcomes).toJson.write =
        some (ofOutcomes shownOutcomes) := by
  have hdecoded : ∀ o ∈ shownOutcomes, ∃ v, ExecutionOutcome.ofJson v = .ok o := by
    simp only [shownOutcomes, List.forall_mem_cons, List.not_mem_nil, false_imp_iff, implies_true,
      and_true]
    exact ⟨⟨failedCompilation, by rfl⟩, ⟨wrongAnswer, by rfl⟩⟩
  have hsurvives : ∀ o ∈ shownOutcomes, o.toJson.Survives := by
    have hline : (Json.Number.int 2).Survives := by decide
    have hid : (Json.Number.int 7).Survives := by decide
    have hzero : (Json.Number.int 0).Survives := by decide
    have hone : (Json.Number.int 1).Survives := by decide
    have htime : (Json.Number.float (.ofRatio false 3 2)).Survives := by decide
    simp only [shownOutcomes, List.forall_mem_cons, List.not_mem_nil, false_imp_iff, implies_true,
      and_true]
    exact ⟨⟨trivial, trivial, ⟨trivial, trivial, trivial, hline, ⟨trivial, trivial⟩,
      ⟨trivial, trivial, trivial⟩, trivial⟩, trivial⟩, ⟨trivial, hid, ⟨trivial, trivial, trivial⟩,
      htime, ⟨hzero, hone, trivial⟩, trivial⟩⟩
  have hunannotated : ∀ o ∈ shownOutcomes, o.IsUnannotated := by decide
  have hdepth : (ofOutcomes shownOutcomes).toJson.depth ≤ Json.maxDepth := by decide
  obtain ⟨hvalue, htext⟩ := round_trips_iff hdecoded
  exact ⟨hdecoded, hsurvives, hvalue.mpr hunannotated,
    (htext hsurvives).mpr ⟨hunannotated, hdepth⟩⟩

/-- An outcome with a member under the name of an annotation. -/
def annotatedOutcome : ExecutionOutcome where
  verdict := some .accepted
  extra := [("errorCategory", .string "X")]

/-- The value of its report says the annotation in place of the member, and the text says both and
is not read. -/
theorem loses_annotated_member :
    ExecutionOutcome.ofJson (.object [("verdict", .string "ACCEPTED"),
        ("errorCategory", .string "X")]) = .ok annotatedOutcome ∧
      ofJson (ofOutcomes [annotatedOutcome]).toJson.sorted ≠ .ok (ofOutcomes [annotatedOutcome]) ∧
      Json.decodeText? ofJson .whole (ofOutcomes [annotatedOutcome]).toJson.write = none := by
  refine ⟨by rfl, ?_, ?_⟩
  · intro h
    have hunannotated : annotatedOutcome.IsUnannotated :=
      unannotated_of_json h (.ofOutcome annotatedOutcome) (by simp [ofOutcomes])
    exact absurd hunannotated (by decide)
  · exact Option.isNone_iff_eq_none.mp (by decide +kernel)

end BatchReport

end CodeJudge
