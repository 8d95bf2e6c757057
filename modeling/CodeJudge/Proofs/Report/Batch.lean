import CodeJudge.Report
import Mathlib
/-!
Reports of a batch. The editor shows the first outcome that belongs there, so outcomes that belong
elsewhere may come and go around it. The flag for wrong answers is read off the verdicts: it agrees
with the categories of the results unless a failure of the program hides every wrong answer.
-/
namespace CodeJudge

theorem PresentationKind.category_eq_editor_iff (k : PresentationKind) :
    k.category = .editorError ↔ k ≠ .wrongAnswer ∧ k ≠ .accepted := by
  cases k <;> decide

theorem PresentationKind.category_eq_test_iff (k : PresentationKind) :
    k.category = .testCaseError ↔ k = .wrongAnswer := by
  cases k <;> decide

namespace ExecutionOutcome

/-- The outcome belongs in the editor. -/
def isEditorError (o : ExecutionOutcome) : Bool := o.presentation.category == .editorError

theorem presentation_category (o : ExecutionOutcome) :
    o.presentation.category = o.kind.category := rfl

theorem isEditorError_iff (o : ExecutionOutcome) :
    o.isEditorError = true ↔ o.kind ≠ .wrongAnswer ∧ o.kind ≠ .accepted := by
  rw [isEditorError, beq_iff_eq, presentation_category, o.kind.category_eq_editor_iff]

/-- The statuses of a program that did not get to an answer. -/
def failures : List ExecutionStatus := [.compilationError, .runtimeError, .timeout, .memoryExceeded]

/-- The program failed before its answer was judged. -/
def Failed (o : ExecutionOutcome) : Prop := ∃ s ∈ o.status, s ∈ failures

theorem failed_iff (o : ExecutionOutcome) :
    o.Failed ↔ o.status = some .compilationError ∨ o.status = some .runtimeError ∨
      o.status = some .timeout ∨ o.status = some .memoryExceeded := by
  cases h : o.status <;> simp [Failed, failures, h]

/-- A wrong answer is shown as one unless the program failed. -/
theorem kind_eq_wrong_answer_iff (o : ExecutionOutcome) :
    o.kind = .wrongAnswer ↔ o.verdict = some .wrongAnswer ∧ ¬ o.Failed := by
  rw [failed_iff, kind]
  constructor
  · intro h
    split_ifs at h with hcompile hruntime htime hmemory hwrong
    simp only [beq_iff_eq, Bool.or_eq_true, not_or] at hcompile hruntime htime hmemory hwrong
    simp only [not_or]
    exact ⟨hwrong, hcompile.1, hruntime.1, htime.1, hmemory.1⟩
  · rintro ⟨hwrong, hstatus⟩
    simp only [not_or] at hstatus
    obtain ⟨hcompile, hruntime, htime, hmemory⟩ := hstatus
    simp [hwrong, hcompile, hruntime, htime, hmemory]

end ExecutionOutcome

namespace BatchReport

/-- Each outcome has its result, as it is and in order. -/
theorem results_outcomes (outcomes : List ExecutionOutcome) :
    (ofOutcomes outcomes).testCaseResults.map (·.outcome) = outcomes := by
  have hid : (fun o => (TestCaseResult.ofOutcome o).outcome) = id := rfl
  rw [ofOutcomes, List.map_map]
  exact (congrArg (List.map · outcomes) hid).trans (List.map_id outcomes)

/-- The editor shows the first outcome that belongs there. -/
theorem editor_error_eq (outcomes : List ExecutionOutcome) :
    (ofOutcomes outcomes).editorError =
      (outcomes.find? (·.isEditorError)).map (·.presentation) := by
  rw [ofOutcomes, List.find?_map]
  rfl

theorem editor_error_cons_of_editor {o : ExecutionOutcome} (h : o.isEditorError = true)
    (rest : List ExecutionOutcome) :
    (ofOutcomes (o :: rest)).editorError = some o.presentation := by
  rw [editor_error_eq, List.find?_cons_of_pos h, Option.map_some]

theorem editor_error_cons_of_not_editor {o : ExecutionOutcome} (h : o.isEditorError = false)
    (rest : List ExecutionOutcome) :
    (ofOutcomes (o :: rest)).editorError = (ofOutcomes rest).editorError := by
  rw [editor_error_eq, editor_error_eq, List.find?_cons_of_neg (by simp [h])]

theorem editor_error_eq_none_iff (outcomes : List ExecutionOutcome) :
    (ofOutcomes outcomes).editorError = none ↔ ∀ o ∈ outcomes, o.isEditorError = false := by
  rw [editor_error_eq, Option.map_eq_none_iff, List.find?_eq_none]
  simp

theorem editor_error_of_first {before : List ExecutionOutcome}
    (hbefore : ∀ b ∈ before, b.isEditorError = false) {o : ExecutionOutcome}
    (ho : o.isEditorError = true) (after : List ExecutionOutcome) :
    (ofOutcomes (before ++ o :: after)).editorError = some o.presentation := by
  induction before with
  | nil => exact editor_error_cons_of_editor ho after
  | cons b before ih =>
    rw [List.forall_mem_cons] at hbefore
    rw [List.cons_append, editor_error_cons_of_not_editor hbefore.1, ih hbefore.2]

/-- The second batch is the first one with outcomes put in, anywhere, that do not belong in the
editor. -/
inductive Dilutes : List ExecutionOutcome → List ExecutionOutcome → Prop where
  | nil : Dilutes [] []
  | keep (o : ExecutionOutcome) {as bs : List ExecutionOutcome} :
    Dilutes as bs → Dilutes (o :: as) (o :: bs)
  | insert {o : ExecutionOutcome} {as bs : List ExecutionOutcome} (h : o.isEditorError = false) :
    Dilutes as bs → Dilutes as (o :: bs)

theorem Dilutes.editor_error_eq {as bs : List ExecutionOutcome} (h : Dilutes as bs) :
    (ofOutcomes as).editorError = (ofOutcomes bs).editorError := by
  induction h with
  | nil => rfl
  | keep o _ ih =>
    -- an outcome of both batches either decides both or is passed over in both
    cases ho : o.isEditorError with
    | true => rw [editor_error_cons_of_editor ho, editor_error_cons_of_editor ho]
    | false => rw [editor_error_cons_of_not_editor ho, editor_error_cons_of_not_editor ho, ih]
  | insert ho _ ih => rw [editor_error_cons_of_not_editor ho, ih]

/-- Each outcome has its result, and the editor shows the first outcome that belongs there. What
does not belong there may be put in or taken out at any places, and is never shown. -/
theorem shows_first_editor_error (outcomes : List ExecutionOutcome) :
    (ofOutcomes outcomes).testCaseResults.map (·.outcome) = outcomes ∧
      ((ofOutcomes outcomes).editorError = none ↔ ∀ o ∈ outcomes, o.isEditorError = false) ∧
      (∀ before o after, outcomes = before ++ o :: after → (∀ b ∈ before, b.isEditorError = false) →
        o.isEditorError = true → (ofOutcomes outcomes).editorError = some o.presentation) ∧
      (ofOutcomes outcomes).hasEditorError = (ofOutcomes outcomes).editorError.isSome ∧
      (∀ others, Dilutes outcomes others ∨ Dilutes others outcomes →
        (ofOutcomes others).editorError = (ofOutcomes outcomes).editorError) ∧
      ∀ p ∈ (ofOutcomes outcomes).editorError, p.kind ≠ .wrongAnswer ∧ p.kind ≠ .accepted := by
  refine ⟨results_outcomes outcomes, editor_error_eq_none_iff outcomes, ?_, rfl, ?_, ?_⟩
  · rintro before o after rfl hbefore ho
    exact editor_error_of_first hbefore ho after
  · rintro others (h | h)
    · exact h.editor_error_eq.symm
    · exact h.editor_error_eq
  · intro p hp
    rw [editor_error_eq] at hp
    obtain ⟨o, ho, rfl⟩ := Option.map_eq_some_iff.mp hp
    have hshown : o.isEditorError = true := List.find?_some ho
    exact o.isEditorError_iff.mp hshown

/-- A limit that is exceeded is shown, with wrong answers around it or without them. -/
theorem shows_limit_among_wrong_answers :
    let slow : ExecutionOutcome := { status := some .timeout }
    let wrong : ExecutionOutcome := { verdict := some .wrongAnswer }
    Dilutes [slow] [wrong, slow, wrong] ∧
      (ofOutcomes [slow]).editorError = some slow.presentation ∧
      (ofOutcomes [wrong, slow, wrong]).editorError = some slow.presentation ∧
      slow.presentation.kind = .timeLimitExceeded := by
  intro slow wrong
  have hwrong : wrong.isEditorError = false := by decide
  have hslow : slow.isEditorError = true := by decide
  have hdilutes : Dilutes [slow] [wrong, slow, wrong] :=
    .insert hwrong (.keep slow (.insert hwrong .nil))
  obtain ⟨-, -, hfirst, -, hdiluted, -⟩ := shows_first_editor_error [slow]
  have hshown := hfirst [] slow [] rfl (by simp) hslow
  exact ⟨hdilutes, hshown, (hdiluted _ (Or.inl hdilutes)).trans hshown, rfl⟩

/-! The flag for wrong answers. -/

/-- The flag is set exactly if some result has the category of wrong answers. -/
def FlagAgrees (r : BatchReport) : Prop :=
  r.hasTestCaseErrors = true ↔ ∃ result ∈ r.testCaseResults, result.errorCategory = .testCaseError

theorem has_test_case_errors_iff (outcomes : List ExecutionOutcome) :
    (ofOutcomes outcomes).hasTestCaseErrors = true ↔
      ∃ o ∈ outcomes, o.verdict = some .wrongAnswer := by
  simp [ofOutcomes]

theorem exists_test_case_error_iff (outcomes : List ExecutionOutcome) :
    (∃ result ∈ (ofOutcomes outcomes).testCaseResults, result.errorCategory = .testCaseError) ↔
      ∃ o ∈ outcomes, o.verdict = some .wrongAnswer ∧ ¬ o.Failed := by
  have hcategory (o : ExecutionOutcome) :
      (TestCaseResult.ofOutcome o).errorCategory = .testCaseError ↔
        o.verdict = some .wrongAnswer ∧ ¬ o.Failed := by
    rw [← o.kind_eq_wrong_answer_iff, ← o.kind.category_eq_test_iff]
    rfl
  constructor
  · rintro ⟨result, hresult, h⟩
    obtain ⟨o, ho, rfl⟩ := List.mem_map.mp hresult
    exact ⟨o, ho, (hcategory o).mp h⟩
  · rintro ⟨o, ho, h⟩
    exact ⟨_, List.mem_map_of_mem ho, (hcategory o).mpr h⟩

/-- A result with the category of wrong answers always sets the flag. The flag is set without such a
result exactly if there are wrong answers and each of them has the status of a failure. -/
theorem flag_agrees_iff (outcomes : List ExecutionOutcome) :
    (ofOutcomes outcomes).FlagAgrees ↔
      ((∃ o ∈ outcomes, o.verdict = some .wrongAnswer) →
        ∃ o ∈ outcomes, o.verdict = some .wrongAnswer ∧ ¬ o.Failed) := by
  rw [FlagAgrees, has_test_case_errors_iff, exists_test_case_error_iff]
  constructor
  · exact Iff.mp
  · intro h
    refine ⟨h, ?_⟩
    rintro ⟨o, ho, hverdict, -⟩
    exact ⟨o, ho, hverdict⟩

/-- A wrong answer of a program that ran agrees with the flag, next to one that did not compile. -/
theorem flag_agrees_of_run :
    let judged : ExecutionOutcome := { status := some .failed, verdict := some .wrongAnswer }
    let broken : ExecutionOutcome := { status := some .compilationError }
    (ofOutcomes [judged, broken]).FlagAgrees := by
  intro judged broken
  refine (flag_agrees_iff [judged, broken]).mpr fun _ => ?_
  refine ⟨judged, List.mem_cons_self, rfl, ?_⟩
  rw [ExecutionOutcome.failed_iff]
  decide

/-- A wrong answer of a program that did not compile sets the flag, and its result belongs in the
editor. -/
theorem flag_disagrees_of_failed_compilation :
    let broken : ExecutionOutcome :=
      { status := some .compilationError, verdict := some .wrongAnswer }
    ¬ (ofOutcomes [broken]).FlagAgrees := by
  intro broken
  have hflag : (ofOutcomes [broken]).hasTestCaseErrors = true := rfl
  intro hagrees
  obtain ⟨result, hresult, hcategory⟩ := hagrees.mp hflag
  obtain rfl := List.mem_singleton.mp hresult
  exact absurd hcategory (by decide)

end BatchReport

end CodeJudge
