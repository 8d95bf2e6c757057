import CodeJudge.Proofs.Record.Reconciliation
import CodeJudge.Proofs.Report.Batch
/-!
Reports of records. Each test has one result, in order, with the status of the record that answers
it; a test without an answer counts as one that ended with an error.
-/
namespace CodeJudge

/-- What a test with a record of the status is shown as. -/
def RecordStatus.shownAs : RecordStatus → PresentationKind
  | passed => .accepted
  | failed => .wrongAnswer
  | error => .runtimeError

namespace TestRecord

/-- The status that is reported of the test at a place; one without an answer is an error. -/
def statusAt (records : List TestRecord) (tests : List TestCase) (i : Nat) : RecordStatus :=
  ((answering? records tests i).map (·.status)).getD .error

/-- The outcome that is reported of the test at a place. -/
def outcomeAt (records : List TestRecord) (tests : List TestCase) (i : Nat) (t : TestCase) :
    ExecutionOutcome :=
  ((answering? records tests i).getD (missing t)).toOutcome

theorem outcome_kind (r : TestRecord) : r.toOutcome.kind = r.status.shownAs := by
  obtain ⟨id, status, actual, expected, time, memory, error⟩ := r
  cases status <;> rfl

theorem outcome_wrong_answer_iff (r : TestRecord) :
    r.toOutcome.verdict = some .wrongAnswer ↔ r.status = .failed := by
  cases h : r.status <;> simp [toOutcome, RecordStatus.verdict, h]

theorem outcome_isEditorError (r : TestRecord) :
    r.toOutcome.isEditorError = (r.status == .error) := by
  obtain ⟨id, status, actual, expected, time, memory, error⟩ := r
  cases status <;> rfl

theorem kind_outcome_at (records : List TestRecord) (tests : List TestCase) (i : Nat)
    (t : TestCase) : (outcomeAt records tests i t).kind = (statusAt records tests i).shownAs := by
  rw [outcomeAt, outcome_kind, statusAt]
  cases answering? records tests i <;> rfl

theorem isEditorError_outcome_at (records : List TestRecord) (tests : List TestCase) (i : Nat)
    (t : TestCase) :
    (outcomeAt records tests i t).isEditorError = (statusAt records tests i == .error) := by
  rw [outcomeAt, outcome_isEditorError, statusAt]
  cases answering? records tests i <;> rfl

/-- The outcome of a test carries its identifier, as one that equals it. -/
theorem id_outcome_at {records : List TestRecord} {tests : List TestCase} {i : Nat} {t : TestCase}
    (ht : tests[i]? = some t) (hid : t.id.WellFormed) :
    ∃ id, (outcomeAt records tests i t).testCaseId = some id ∧ id == t.id := by
  rw [outcomeAt]
  cases h : answering? records tests i with
  | none => exact ⟨t.id, rfl, Json.Value.equals_refl hid⟩
  | some r => exact ⟨r.testCaseId, rfl, (about_of_answering ht h).2⟩

end TestRecord

namespace BatchReport

open TestRecord

/-- The report of the records of a program on its tests. -/
def ofRecords (records : List TestRecord) (tests : List TestCase) : BatchReport :=
  ofOutcomes ((reconcile records tests).map toOutcome)

variable (records : List TestRecord) (tests : List TestCase)

/-- The outcomes that are reported, by the places of their tests. -/
theorem getElem?_outcomes (i : Nat) :
    ((reconcile records tests).map toOutcome)[i]? =
      tests[i]?.map (outcomeAt records tests i) := by
  rw [List.getElem?_map, getElem?_reconcile, Option.map_map]
  rfl

/-- An outcome is reported exactly if it is that of some test. -/
theorem mem_outcomes_iff (o : ExecutionOutcome) :
    o ∈ (reconcile records tests).map toOutcome ↔
      ∃ i t, tests[i]? = some t ∧ outcomeAt records tests i t = o := by
  rw [List.mem_iff_getElem?]
  simp only [getElem?_outcomes, Option.map_eq_some_iff]

theorem length_results :
    (ofRecords records tests).testCaseResults.length = tests.length := by
  rw [ofRecords, ofOutcomes, List.length_map, List.length_map, length_reconcile]

theorem getElem?_results (i : Nat) :
    (ofRecords records tests).testCaseResults[i]? =
      tests[i]?.map fun t => .ofOutcome (outcomeAt records tests i t) := by
  rw [ofRecords, ofOutcomes, List.getElem?_map, getElem?_outcomes, Option.map_map]
  rfl

/-- The flag is set exactly if a record that answers a test says that the test failed. -/
theorem flag_iff_failed :
    (ofRecords records tests).hasTestCaseErrors = true ↔
      ∃ i r, answering? records tests i = some r ∧ r.status = .failed := by
  rw [ofRecords, has_test_case_errors_iff]
  constructor
  · rintro ⟨o, ho, hverdict⟩
    obtain ⟨i, t, -, rfl⟩ := (mem_outcomes_iff records tests o).mp ho
    rw [outcomeAt, outcome_wrong_answer_iff] at hverdict
    cases h : answering? records tests i with
    | some r =>
      rw [h] at hverdict
      exact ⟨i, r, h, hverdict⟩
    | none =>
      rw [h] at hverdict
      cases hverdict
  · rintro ⟨i, r, h, hstatus⟩
    obtain ⟨t, ht⟩ : ∃ t, tests[i]? = some t := by
      rw [answering?] at h
      obtain ⟨t, ht, -⟩ := Option.bind_eq_some_iff.mp h
      exact ⟨t, ht⟩
    refine ⟨outcomeAt records tests i t, (mem_outcomes_iff records tests _).mpr ⟨i, t, ht, rfl⟩, ?_⟩
    rw [outcomeAt, h, outcome_wrong_answer_iff]
    exact hstatus

/-- The editor shows nothing exactly if no test ended with an error. -/
theorem editor_error_none_iff :
    (ofRecords records tests).editorError = none ↔
      ∀ i < tests.length, statusAt records tests i ≠ .error := by
  rw [ofRecords, editor_error_eq_none_iff]
  constructor
  · intro h i hi
    have ht : tests[i]? = some tests[i] := List.getElem?_eq_getElem hi
    have hnot := h _ ((mem_outcomes_iff records tests _).mpr ⟨i, tests[i], ht, rfl⟩)
    rw [isEditorError_outcome_at] at hnot
    simpa using hnot
  · intro h o ho
    obtain ⟨i, t, ht, rfl⟩ := (mem_outcomes_iff records tests o).mp ho
    obtain ⟨hi, -⟩ := List.getElem?_eq_some_iff.mp ht
    rw [isEditorError_outcome_at]
    simpa using h i hi

/-- The editor shows the first test that ended with an error. -/
theorem editor_error_of_first_error {i : Nat} {t : TestCase} (ht : tests[i]? = some t)
    (hstatus : statusAt records tests i = .error)
    (hfirst : ∀ j < i, statusAt records tests j ≠ .error) :
    (ofRecords records tests).editorError = some (outcomeAt records tests i t).presentation := by
  obtain ⟨hi, -⟩ := List.getElem?_eq_some_iff.mp ht
  have hlen : i < ((reconcile records tests).map toOutcome).length := by
    rwa [List.length_map, length_reconcile]
  have hat : ((reconcile records tests).map toOutcome)[i] = outcomeAt records tests i t := by
    have hget := getElem?_outcomes records tests i
    rw [ht, List.getElem?_eq_getElem hlen] at hget
    exact Option.some.inj hget
  -- the outcomes in front of the place are those of the tests in front of it
  rw [ofRecords, ← List.take_append_drop i ((reconcile records tests).map toOutcome),
    List.drop_eq_getElem_cons hlen, hat]
  refine editor_error_of_first ?_ ?_ _
  · intro b hb
    obtain ⟨j, hj⟩ := List.mem_iff_getElem?.mp hb
    rw [List.getElem?_take] at hj
    split_ifs at hj with hji
    rw [getElem?_outcomes] at hj
    obtain ⟨u, -, rfl⟩ := Option.map_eq_some_iff.mp hj
    rw [isEditorError_outcome_at]
    simpa using hfirst j hji
  · rw [isEditorError_outcome_at, hstatus]
    rfl

/-- Each test has one result, in order, with its identifier and the status of the record that
answers it. The flag for wrong answers says whether such a record failed, and the editor shows the
first test that ended with an error or has no answer, if there is one. -/
theorem reports_each_test (hids : ∀ t ∈ tests, t.id.WellFormed) :
    (ofRecords records tests).testCaseResults.length = tests.length ∧
      (∀ i t, tests[i]? = some t → ∃ result,
        (ofRecords records tests).testCaseResults[i]? = some result ∧
          (∃ id, result.outcome.testCaseId = some id ∧ id == t.id) ∧
          result.errorType = (statusAt records tests i).shownAs) ∧
      ((ofRecords records tests).hasTestCaseErrors = true ↔
        ∃ i r, answering? records tests i = some r ∧ r.status = .failed) ∧
      ((ofRecords records tests).editorError = none ↔
        ∀ i < tests.length, statusAt records tests i ≠ .error) ∧
      ∀ i t, tests[i]? = some t → statusAt records tests i = .error →
        (∀ j < i, statusAt records tests j ≠ .error) →
          (ofRecords records tests).editorError =
            some (outcomeAt records tests i t).presentation := by
  refine ⟨length_results records tests, ?_, flag_iff_failed records tests,
    editor_error_none_iff records tests, ?_⟩
  · intro i t ht
    refine ⟨.ofOutcome (outcomeAt records tests i t), ?_, ?_, ?_⟩
    · rw [getElem?_results, ht, Option.map_some]
    · exact id_outcome_at ht (hids t (List.mem_of_getElem? ht))
    · exact kind_outcome_at records tests i t
  · intro i t
    exact editor_error_of_first_error records tests

/-- A record of no test is left out, and a test without a record is what the editor shows. -/
theorem reports_unanswered_test :
    let test (id : Int) : TestCase := ⟨.number (.int id), [], .null⟩
    let record (id : Int) (status : RecordStatus) : TestRecord :=
      ⟨.number (.int id), status, .null, .null, none, none, none⟩
    let report := ofRecords [record 1 .passed, record 7 .error, record 2 .failed]
      [test 2, test 3, test 1]
    (∀ t ∈ [test 2, test 3, test 1], t.id.WellFormed) ∧
      report.testCaseResults.length = 3 ∧ report.hasTestCaseErrors = true ∧
      report.editorError = some (missing (test 3)).toOutcome.presentation := by
  intro test record report
  have hids : ∀ t ∈ [test 2, test 3, test 1], t.id.WellFormed := by
    have hrange : ∀ id ∈ ([2, 3, 1] : List Int), Json.Number.InRange id := by decide
    simpa [test, Json.Value.WellFormed] using hrange
  obtain ⟨hlen, -, hflag, -, hfirst⟩ :=
    reports_each_test [record 1 .passed, record 7 .error, record 2 .failed] _ hids
  refine ⟨hids, hlen, hflag.mpr ⟨0, record 2 .failed, rfl, rfl⟩, ?_⟩
  refine hfirst 1 (test 3) rfl rfl fun j hj => ?_
  obtain rfl : j = 0 := by omega
  exact (by decide : RecordStatus.failed ≠ .error)

end BatchReport

end CodeJudge
