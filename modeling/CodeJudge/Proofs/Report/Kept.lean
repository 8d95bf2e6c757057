import CodeJudge.Json.Document
import CodeJudge.Proofs.Report.Outcome
/-!
What outcomes keep. An outcome is given back by the data that are written of it, and in these data
every member that is no field stands as it stood in the data that the outcome was decoded from.
-/
namespace CodeJudge.ExecutionOutcome

/-- The names of the fields. Every other member is kept. -/
def fieldNames : List String :=
  ["status", "verdict", "testCaseId", "error", "compileOutput", "diagnostic"]

theorem field_eq_none_iff (key : String) : shape.field? key = none ↔ key ∉ fieldNames :=
  Json.Shape.field_eq_none_iff (by simp [shape, Json.Field.of]) key

/-- Of an outcome all is looked at that is written of it. -/
theorem outline_covers {o : ExecutionOutcome} (h : o.IsNormal) :
    shape.openOutline.Covers o.toJson := by
  refine shape.open_outline_covers fun m hm f hf => ?_
  rcases List.mem_append.mp hm with hm | hm
  · rcases List.mem_append.mp hm with hm | hm
    · -- all fields but the diagnostic are looked at as a whole
      simp only [List.mem_append] at hm
      rcases hm with (((hm | hm) | hm) | hm) | hm <;>
      · obtain ⟨x, -, rfl⟩ := Json.mem_member hm
        cases hf
        exact Json.Outline.whole_covers _
    · obtain ⟨d, -, rfl⟩ := Json.mem_member hm
      cases hf
      exact d.outline_covers
  · rw [h.other_extra m hm] at hf
    cases hf

/-- Under a key that is no field an outcome writes what it has kept under that key. -/
theorem get_to_json {o : ExecutionOutcome} (h : o.IsNormal) {key : String}
    (hkey : key ∉ fieldNames) : o.toJson.sorted.get? key = o.extra.lookup key := by
  have hfields : o.fieldMembers.reverse.lookup key = none := by
    refine Json.Shape.lookup_eq_none fun hmem => hkey ?_
    rw [List.map_reverse, List.mem_reverse] at hmem
    exact o.keys_sublist.subset hmem
  have hextra : o.extra.reverse.lookup key = o.extra.lookup key := by
    have hkeys : (o.extra.reverse.map (·.1)).Nodup := by
      rw [List.map_reverse, List.nodup_reverse]
      exact h.ascending_extra.nodup_keys
    exact Json.Shape.lookup_perm (List.reverse_perm _) hkeys key
  have hsorted : Json.mapValues Json.Value.sorted o.extra = o.extra := by
    have hsame : ∀ m ∈ o.extra, (m.1, m.2.sorted) = id m :=
      fun m hm => Prod.ext rfl (h.sorted_extra m hm)
    exact (List.map_congr_left hsame).trans (List.map_id o.extra)
  rw [toJson, Json.get_sorted_object, members_eq, List.reverse_append, List.lookup_append,
    hfields, hextra, Option.or_none, ← Json.lookup_map_values, hsorted]

/-- Under a key that is no field an outcome keeps what the object has there. -/
theorem lookup_extra_of_json {ms : List (String × Json.Value)} {o : ExecutionOutcome}
    (h : ofJson (.object ms) = .ok o) {key : String} (hkey : key ∉ fieldNames) :
    o.extra.lookup key = (Json.Value.object ms).sorted.get? key := by
  obtain ⟨_, slots, hobject, -, -, -, -, -, -, -, hextra⟩ := exists_of_json h
  cases hobject
  have hnone : (shape.field? key).isNone = true := by
    rw [(field_eq_none_iff key).mpr hkey]
    rfl
  rw [hextra, Json.lookup_sort_members, Json.mapValues, ← List.map_reverse, Json.Shape.others,
    ← List.filter_reverse, Json.get_sorted_object,
    ← Json.lookup_filter (fun key => (shape.field? key).isNone) ms.reverse hnone]
  exact Json.lookup_map_values Json.Value.sorted _ key

/-- An outcome that was decoded is decoded from the value that is written of it, and this value has
under every key that is no field what the data have that the outcome was decoded from. From its text
it is decoded if and only if the text has not too many levels, as long as its numbers are read as
they are written. -/
theorem keeps_other_members {v : Json.Value} {o : ExecutionOutcome} (h : ofJson v = .ok o) :
    ofJson o.toJson.sorted = .ok o ∧
      (∀ key ∉ fieldNames, o.toJson.sorted.get? key = v.sorted.get? key) ∧
      (o.toJson.Survives →
        (Json.decodeText? ofJson shape.openOutline o.toJson.write = some o ↔
          o.toJson.depth ≤ Json.maxDepth)) := by
  have hnormal := is_normal_of_json h
  have hdecodes := decodes_to_json hnormal
  refine ⟨hdecodes _ Json.is_arrangement_sorted, fun key hkey => ?_, fun hsurvives => ?_⟩
  · obtain ⟨ms, -, rfl, -⟩ := exists_of_json h
    rw [get_to_json hnormal hkey, lookup_extra_of_json h hkey]
  · have hread : ofJson o.toJson = .ok o := hdecodes id Json.is_arrangement_id
    rw [Json.decodeText?, Json.read_document_write (outline_covers hnormal) hsurvives]
    split_ifs with hdepth
    · rw [Option.bind_some, hread]
      exact iff_of_true rfl hdepth
    · simp [hdepth]

/-- An outcome with names that are not known, a diagnostic without optional members, a field that is
`null`, and members that are no fields, one of them twice. -/
def queuedData : Json.Value :=
  .object [("status", .string "IN_QUEUE"), ("verdict", .string "PRESENTATION_ERROR"),
    ("time", .number (.int 1)), ("error", .null),
    ("diagnostic", .object [("category", .string "SYNTAX_ERROR"), ("title", .string "Syntax"),
      ("description", .string "Not closed"), ("suggestions", .array [])]),
    ("actual", .object [("b", .null), ("a", .bool true)]), ("time", .number (.int 2))]

/-- The outcome that the data say. -/
def queuedOutcome : ExecutionOutcome where
  status := some .unknown
  verdict := some .unknown
  diagnostic := some ⟨.syntaxError, "Syntax", "Not closed", none, none, [], none, [], [], none⟩
  extra := [("actual", .object [("a", .bool true), ("b", .null)]), ("time", .number (.int 2))]

theorem keeps_members_of_queued :
    ofJson queuedData = .ok queuedOutcome ∧ ofJson queuedOutcome.toJson.sorted = .ok queuedOutcome ∧
      queuedOutcome.toJson.sorted.get? "time" = some (.number (.int 2)) ∧
      queuedOutcome.toJson.sorted.get? "actual" =
        some (.object [("a", .bool true), ("b", .null)]) ∧
      Json.decodeText? ofJson shape.openOutline queuedOutcome.toJson.write =
        some queuedOutcome := by
  have hread : ofJson queuedData = .ok queuedOutcome := by rfl
  have htwo : (Json.Number.int 2).Survives := by decide
  have hsurvives : queuedOutcome.toJson.Survives :=
    ⟨trivial, trivial, ⟨trivial, trivial, trivial, trivial, trivial⟩, ⟨trivial, trivial, trivial⟩,
      htwo, trivial⟩
  obtain ⟨hvalue, hkept, htext⟩ := keeps_other_members hread
  refine ⟨hread, hvalue, ?_, ?_, (htext hsurvives).mpr (by decide)⟩
  · rw [hkept "time" (by decide)]
    rfl
  · rw [hkept "actual" (by decide)]
    rfl

end CodeJudge.ExecutionOutcome
