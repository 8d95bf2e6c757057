import CodeJudge.Proofs.Json.RoundTrip
import CodeJudge.Proofs.Json.Structure
import CodeJudge.Record.Reader
/-!
The text of records: the compact text of the array of their objects. A whole text that is the text
of records is read as these records, unless a record has too many levels.
-/
namespace CodeJudge

namespace Json.Value

/-- The value is one that free-form data may be, and every number in it survives. -/
def Intact (v : Value) : Prop := v.WellFormed ∧ v.Survives

theorem intact_int {i : Int} (hrange : Number.InRange i) (hs : (Number.int i).Survives) :
    (number (.int i)).Intact := ⟨hrange, hs⟩

end Json.Value

namespace TestRecord

/-- The free-form parts of the record are intact, and its measures survive. -/
structure Intact (r : TestRecord) : Prop where
  testCaseId : r.testCaseId.Intact
  actualOutput : r.actualOutput.Intact
  expectedOutput : r.expectedOutput.Intact
  executionTime : ∀ x ∈ r.executionTime, (Json.Number.float x).Survives
  memory : ∀ x ∈ r.memory, (Json.Number.float x).Survives

/-- The record of a test that was passed with an answer, in one millisecond and a half. -/
def answered (id : Int) (answer : Json.Value) : TestRecord where
  testCaseId := .number (.int id)
  status := .passed
  actualOutput := answer
  expectedOutput := answer
  executionTime := some (.ofRatio false 3 2)
  memory := none
  error := none

theorem intact_answered {id : Int} (hid : (Json.Value.number (.int id)).Intact)
    {answer : Json.Value} (hanswer : answer.Intact) : (answered id answer).Intact where
  testCaseId := hid
  actualOutput := hanswer
  expectedOutput := hanswer
  executionTime := by
    intro x hx
    obtain rfl : Binary64.ofRatio false 3 2 = x := Option.some.inj hx
    decide
  memory := by
    intro x hx
    cases hx

/-- The members of the object of a record. -/
def members (r : TestRecord) : List (String × Json.Value) :=
  [("testCaseId", r.testCaseId), ("status", r.status.toJson),
      ("actualOutput", r.actualOutput), ("expectedOutput", r.expectedOutput),
      ("executionTime", measure r.executionTime), ("memory", measure r.memory)]
    ++ Json.Value.member? "error" .string r.error

/-- The array of records that a program prints. -/
def arrayOf (records : List TestRecord) : Json.Value := .array (records.map toJson)

theorem to_json_eq (r : TestRecord) : r.toJson = .object r.members := rfl

/-- What holds of the six members that are always there, and of an error, holds of all. -/
theorem forall_members (P : String × Json.Value → Prop) (r : TestRecord)
    (hid : P ("testCaseId", r.testCaseId)) (hstatus : P ("status", r.status.toJson))
    (hactual : P ("actualOutput", r.actualOutput))
    (hexpected : P ("expectedOutput", r.expectedOutput))
    (htime : P ("executionTime", measure r.executionTime))
    (hmemory : P ("memory", measure r.memory))
    (herror : ∀ e, P ("error", .string e)) : ∀ m ∈ r.members, P m := by
  intro m hm
  rcases List.mem_append.mp hm with hm | hm
  · simp only [List.mem_cons, List.not_mem_nil, or_false] at hm
    rcases hm with rfl | rfl | rfl | rfl | rfl | rfl <;> assumption
  · cases he : r.error with
    | none =>
      rw [he] at hm
      cases hm
    | some e =>
      rw [he] at hm
      rw [List.mem_singleton.mp hm]
      exact herror e

theorem status_of_json (s : RecordStatus) : RecordStatus.ofJson s.toJson = .ok s := by
  cases s <;> rfl

theorem float_of_measure (x : Option Binary64) :
    Json.Decode.option Json.Decode.float (measure x) = .ok x := by
  cases x <;> rfl

theorem option_string (e : String) :
    Json.Decode.option Json.Decode.string (.string e) = .ok (some e) := rfl

theorem members_fit (r : TestRecord) : ∀ m ∈ r.members, shape.Fits m := by
  -- a measure that is missing is written as null and read as none
  have hfloat (x : Option Binary64) :
      ((Json.Decode.option Json.Decode.float (measure x)).map fun _ => ()) = .ok () := by
    rw [float_of_measure]
    rfl
  refine forall_members shape.Fits r ?_ ?_ ?_ ?_ ?_ ?_ ?_
  · exact ⟨_, rfl, rfl, rfl⟩
  · refine ⟨_, rfl, rfl, ?_⟩
    simp only [Json.Field.of, status_of_json]
    rfl
  · exact ⟨_, rfl, rfl, rfl⟩
  · exact ⟨_, rfl, rfl, rfl⟩
  · exact ⟨_, rfl, rfl, hfloat _⟩
  · exact ⟨_, rfl, rfl, hfloat _⟩
  · exact fun e => ⟨_, rfl, rfl, rfl⟩

theorem keys_nodup (r : TestRecord) : (r.members.map (·.1)).Nodup := by
  cases he : r.error <;> simp [members, he, Json.Value.member?]

/-- A record is decoded from its object. -/
theorem of_json_to_json (r : TestRecord) (h : r.Intact) : ofJson r.toJson = .ok r := by
  have hopen := shape.open_any_fit r.members r.members_fit r.keys_nodup
  have hid := r.testCaseId.sorted_of_well_formed h.testCaseId.1
  have hactual := r.actualOutput.sorted_of_well_formed h.actualOutput.1
  have hexpected := r.expectedOutput.sorted_of_well_formed h.expectedOutput.1
  obtain ⟨id, status, actual, expected, time, memory, error⟩ := r
  dsimp only at hid hactual hexpected
  rw [ofJson, to_json_eq, hopen]
  cases error <;>
    simp [members, Json.Value.member?, Json.Slots.required, Json.Slots.withDefault,
      Json.Slots.optional, List.lookup, Json.Decode.any, option_string, status_of_json,
      float_of_measure, hid, hactual, hexpected, bind, Except.bind, pure, Except.pure]

theorem items_of_json (records : List TestRecord) (h : ∀ r ∈ records, r.Intact) :
    Json.Decode.items ofJson (records.map toJson) = .ok records := by
  induction records with
  | nil => rfl
  | cons r records ih =>
    rw [List.map_cons, Json.Decode.items, of_json_to_json r (h r (by simp)),
      ih fun q hq => h q (by simp [hq])]
    rfl

theorem survives_measure {x : Option Binary64}
    (h : ∀ y ∈ x, (Json.Number.float y).Survives) : (measure x).Survives := by
  cases x with
  | none => trivial
  | some y => exact h y rfl

theorem survives_to_json (r : TestRecord) (h : r.Intact) : r.toJson.Survives := by
  refine (Json.Value.survives_members_iff r.members).mpr ?_
  refine forall_members (fun m => m.2.Survives) r ?_ ?_ ?_ ?_ ?_ ?_ ?_
  · exact h.testCaseId.2
  · trivial
  · exact h.actualOutput.2
  · exact h.expectedOutput.2
  · exact survives_measure h.executionTime
  · exact survives_measure h.memory
  · exact fun _ => trivial

theorem survives_array_of (records : List TestRecord) (h : ∀ r ∈ records, r.Intact) :
    (arrayOf records).Survives := by
  refine (Json.Value.survives_items_iff _).mpr ?_
  intro v hv
  obtain ⟨r, hr, rfl⟩ := List.mem_map.mp hv
  exact survives_to_json r (h r hr)

theorem outline_covers_array_of (records : List TestRecord) :
    (Json.Outline.items shape.outline).Covers (arrayOf records) := by
  have hwhole : ∀ f ∈ shape.fields, f.outline = .whole := by
    simp [shape, Json.Field.of]
  refine .array _ _ fun i v hv => ?_
  obtain ⟨r, -, rfl⟩ := List.mem_map.mp (List.mem_of_getElem? hv)
  exact shape.outline_covers hwhole r.members r.members_fit

/-- A whole text that is the text of records is read as these records if and only if they have not
too many levels. -/
theorem read_array_write (records : List TestRecord) (h : ∀ r ∈ records, r.Intact) :
    readArray? (arrayOf records).write =
      if (arrayOf records).depth ≤ Json.maxDepth then some records else none := by
  rw [readArray?, Json.decodeText?, Json.read_document_write (outline_covers_array_of records)
    (survives_array_of records h)]
  have hitems : Json.Decode.list ofJson (arrayOf records) = .ok records := items_of_json records h
  by_cases hd : (arrayOf records).depth ≤ Json.maxDepth
  · rw [if_pos hd, if_pos hd, Option.bind_some, hitems]
    rfl
  · rw [if_neg hd, if_neg hd, Option.bind_none]

end TestRecord

end CodeJudge
