import CodeJudge.Proofs.Json.Equality
import CodeJudge.Record
/-!
Reconciling records with tests. The tests with one identifier get the records with this identifier
in order, so no record answers two tests, and a test for which none is left is reported as missing.
Only the records with the identifiers of tests count, and only the order among those with one
identifier.
-/
namespace CodeJudge.TestRecord

/-- Whether a record is about a test with the identifier. -/
def isAbout (id : Json.Value) (r : TestRecord) : Bool := r.testCaseId == id

/-- How many of the tests in front of a place have the identifier. -/
def placeAmong (tests : List TestCase) (id : Json.Value) (i : Nat) : Nat :=
  (tests.take i).countP fun t => t.id == id

/-- The record that answers the test at a place: of the records about its identifier the one at
the place that the test has among the tests with this identifier. -/
def answering? (records : List TestRecord) (tests : List TestCase) (i : Nat) :
    Option TestRecord :=
  tests[i]?.bind fun t => (records.filter (isAbout t.id))[placeAmong tests t.id i]?

/-- One test takes the first record that is about it. -/
theorem reconcile_cons (records : List TestRecord) (t : TestCase) (ts : List TestCase) :
    reconcile records (t :: ts) =
      (records.find? (isAbout t.id)).getD (missing t) ::
        reconcile (records.eraseP (isAbout t.id)) ts := by
  have hfind : (records.find? fun r => r.testCaseId == t.id) = records.find? (isAbout t.id) := rfl
  rw [reconcile, hfind]
  cases h : records.find? (isAbout t.id) with
  | some r => rfl
  | none =>
    have hnone := List.find?_eq_none.mp h
    rw [List.eraseP_of_forall_not hnone]
    rfl

/-- Of the records about an identifier the first one is taken away, and none of the others. -/
theorem filter_erase_about (records : List TestRecord) {id other : Json.Value}
    (h : (other == id) = true) :
    (records.eraseP (isAbout other)).filter (isAbout id) = (records.filter (isAbout id)).tail := by
  have hsame : isAbout other = isAbout id := by
    funext r
    exact Json.Value.equals_congr h r.testCaseId
  rw [hsame]
  induction records with
  | nil => rfl
  | cons r records ih =>
    by_cases hr : isAbout id r = true
    · rw [List.eraseP_cons_of_pos hr, List.filter_cons_of_pos hr, List.tail_cons]
    · rw [List.eraseP_cons_of_neg hr, List.filter_cons_of_neg hr, List.filter_cons_of_neg hr, ih]

/-- Taking away a record about one identifier leaves those about another one. -/
theorem filter_erase_other (records : List TestRecord) {id other : Json.Value}
    (h : (other == id) = false) :
    (records.eraseP (isAbout other)).filter (isAbout id) = records.filter (isAbout id) := by
  induction records with
  | nil => rfl
  | cons r records ih =>
    by_cases hr : isAbout other r = true
    · have hid : ¬ isAbout id r = true := by
        have hne : (r.testCaseId == id) = false := Json.Value.not_equals_of_ne h hr
        exact Bool.eq_false_iff.mp hne
      rw [List.eraseP_cons_of_pos hr, List.filter_cons_of_neg hid]
    · rw [List.eraseP_cons_of_neg hr, List.filter_cons, List.filter_cons, ih]

theorem answering_zero (records : List TestRecord) (t : TestCase) (ts : List TestCase) :
    answering? records (t :: ts) 0 = records.find? (isAbout t.id) := by
  have hplace : placeAmong (t :: ts) t.id 0 = 0 := rfl
  rw [answering?, List.getElem?_cons_zero, Option.bind_some, hplace, ← List.head?_eq_getElem?,
    List.head?_filter]

/-- What answers a later test is found in what the first test leaves. -/
theorem answering_succ (records : List TestRecord) (t : TestCase) (ts : List TestCase) (i : Nat) :
    answering? records (t :: ts) (i + 1) =
      answering? (records.eraseP (isAbout t.id)) ts i := by
  rw [answering?, answering?, List.getElem?_cons_succ]
  refine Option.bind_congr fun u _ => ?_
  -- the first test counts for `u`, and uses up a record about `u`, only if it has its identifier
  rw [placeAmong, List.take_succ_cons, List.countP_cons, ← placeAmong]
  cases h : t.id == u.id with
  | true =>
    rw [filter_erase_about records h, List.getElem?_tail]
    rfl
  | false =>
    rw [filter_erase_other records h]
    rfl

theorem length_reconcile (records : List TestRecord) (tests : List TestCase) :
    (reconcile records tests).length = tests.length := by
  induction tests generalizing records with
  | nil => rfl
  | cons t ts ih => rw [reconcile_cons, List.length_cons, List.length_cons, ih]

/-- To each test belongs the record that answers it, or else the one of a missing test. -/
theorem getElem?_reconcile (records : List TestRecord) (tests : List TestCase) (i : Nat) :
    (reconcile records tests)[i]? =
      tests[i]?.map fun t => (answering? records tests i).getD (missing t) := by
  induction tests generalizing records i with
  | nil => rfl
  | cons t ts ih =>
    rw [reconcile_cons]
    cases i with
    | zero =>
      rw [answering_zero]
      rfl
    | succ i =>
      rw [List.getElem?_cons_succ, List.getElem?_cons_succ, ih, answering_succ]

/-- The record that answers a test is one of the records and has the identifier of the test. -/
theorem about_of_answering {records : List TestRecord} {tests : List TestCase} {i : Nat}
    {t : TestCase} {r : TestRecord} (ht : tests[i]? = some t)
    (h : answering? records tests i = some r) : r ∈ records ∧ r.testCaseId == t.id := by
  rw [answering?, ht, Option.bind_some] at h
  exact List.mem_filter.mp (List.mem_of_getElem? h)

/-! Which records count. -/

/-- What is left for the tests depends on nothing but the records about each of them, in order. -/
theorem reconcile_congr {records others : List TestRecord} {tests : List TestCase}
    (h : ∀ t ∈ tests, records.filter (isAbout t.id) = others.filter (isAbout t.id)) :
    reconcile records tests = reconcile others tests := by
  apply List.ext_getElem?
  intro i
  rw [getElem?_reconcile, getElem?_reconcile]
  refine Option.map_congr fun t ht => ?_
  have habout := h t (List.mem_of_getElem? ht)
  rw [answering?, answering?, ht, Option.bind_some, Option.bind_some, habout]

/-- The record is about some test. -/
def isKnown (tests : List TestCase) (r : TestRecord) : Bool := tests.any fun t => isAbout t.id r

theorem reconcile_known (records : List TestRecord) (tests : List TestCase) :
    reconcile (records.filter (isKnown tests)) tests = reconcile records tests := by
  apply reconcile_congr
  intro t ht
  rw [List.filter_filter]
  refine List.filter_congr fun r _ => ?_
  -- a record about the test is about some test
  have hknown : isAbout t.id r = true → isKnown tests r = true := fun hr =>
    List.any_eq_true.mpr ⟨t, ht, hr⟩
  cases hr : isAbout t.id r with
  | true => rw [hknown hr, Bool.and_self]
  | false => rw [Bool.false_and]

/-- The identifiers of the records differ from each other. -/
def DistinctIds (records : List TestRecord) : Prop :=
  records.Pairwise fun a b => (a.testCaseId == b.testCaseId) = false

theorem length_filter_about_le {records : List TestRecord} (h : DistinctIds records)
    (id : Json.Value) : (records.filter (isAbout id)).length ≤ 1 := by
  have hpair : (records.filter (isAbout id)).Pairwise fun _ _ => False := by
    rw [List.pairwise_filter]
    refine h.imp fun {a b} hdiffer ha hb => ?_
    have hsame : a.testCaseId.equals b.testCaseId = true :=
      Json.Value.equals_trans ha (Json.Value.equals_symm hb)
    have hno : a.testCaseId.equals b.testCaseId = false := hdiffer
    rw [hsame] at hno
    cases hno
  match hlist : records.filter (isAbout id) with
  | [] => exact Nat.zero_le 1
  | [r] => exact Nat.le_refl 1
  | a :: b :: rest =>
    rw [hlist] at hpair
    exact (List.rel_of_pairwise_cons hpair List.mem_cons_self).elim

theorem reconcile_perm {records others : List TestRecord} (hperm : records.Perm others)
    (h : DistinctIds records) (tests : List TestCase) :
    reconcile records tests = reconcile others tests := by
  refine reconcile_congr fun t _ => ?_
  have habout := hperm.filter (isAbout t.id)
  have hlen := length_filter_about_le h t.id
  -- at most one record is about the test, and then nothing is left to be ordered
  match hlist : records.filter (isAbout t.id) with
  | [] =>
    rw [hlist] at habout
    exact (List.nil_perm.mp habout).symm
  | [r] =>
    rw [hlist] at habout
    exact List.singleton_perm.mp habout
  | a :: b :: rest =>
    rw [hlist] at hlen
    simp at hlen

/-! No record is used twice. -/

/-- The records that answer the tests, in the order of the tests. -/
def answers (records : List TestRecord) (tests : List TestCase) : List TestRecord :=
  (List.range tests.length).filterMap (answering? records tests)

theorem answers_cons (records : List TestRecord) (t : TestCase) (ts : List TestCase) :
    answers records (t :: ts) =
      (records.find? (isAbout t.id)).toList ++ answers (records.eraseP (isAbout t.id)) ts := by
  have hlater : answering? records (t :: ts) ∘ Nat.succ =
      answering? (records.eraseP (isAbout t.id)) ts := by
    funext i
    exact answering_succ records t ts i
  rw [answers, List.length_cons, List.range_succ_eq_map, List.filterMap_cons, answering_zero,
    List.filterMap_map, hlater, answers]
  cases records.find? (isAbout t.id) <;> rfl

/-- The record that is found and the ones that are left are all of them. -/
theorem find_append_erase_perm (p : TestRecord → Bool) (records : List TestRecord) :
    ((records.find? p).toList ++ records.eraseP p).Perm records := by
  cases h : records.find? p with
  | none =>
    have hnone := List.find?_eq_none.mp h
    rw [List.eraseP_of_forall_not hnone]
    rfl
  | some r =>
    obtain ⟨hr, front, back, rfl, hfront⟩ := List.find?_eq_some_iff_append.mp h
    have hskip : ∀ a ∈ front, ¬ p a = true := by simpa using hfront
    have hmiddle : (front ++ r :: back).Perm (r :: (front ++ back)) := List.perm_middle
    rw [List.eraseP_append_right _ hskip, List.eraseP_cons_of_pos hr]
    exact hmiddle.symm

/-- The answers are records of the input, each as often at most as it stands there. -/
theorem answers_subperm (records : List TestRecord) (tests : List TestCase) :
    (answers records tests).Subperm records := by
  induction tests generalizing records with
  | nil => exact List.nil_subperm
  | cons t ts ih =>
    rw [answers_cons]
    have hleft := (List.subperm_append_left (records.find? (isAbout t.id)).toList).mpr
      (ih (records.eraseP (isAbout t.id)))
    exact hleft.trans (find_append_erase_perm _ records).subperm

/-- Each test gets a record, in the order of the tests: the test that is the k-th with its
identifier gets the k-th record with this identifier, and one without such a record is reported as
an error. No record answers two tests, records about no test are as if they were not there, and
records with distinct identifiers may come in any order. -/
theorem reconcile_matches (records : List TestRecord) (tests : List TestCase) :
    (reconcile records tests).length = tests.length ∧
    (∀ i t, tests[i]? = some t →
      (∀ r, (records.filter (isAbout t.id))[placeAmong tests t.id i]? = some r →
        (reconcile records tests)[i]? = some r) ∧
      ((records.filter (isAbout t.id))[placeAmong tests t.id i]? = none →
        ∃ r, (reconcile records tests)[i]? = some r ∧ r.status = .error ∧
          r.testCaseId = t.id ∧ r.expectedOutput = t.output)) ∧
    (answers records tests).Subperm records ∧
    reconcile (records.filter (isKnown tests)) tests = reconcile records tests ∧
    ∀ others, records.Perm others → DistinctIds records →
      reconcile others tests = reconcile records tests := by
  refine ⟨length_reconcile records tests, ?_, answers_subperm records tests,
    reconcile_known records tests, fun others hperm h => (reconcile_perm hperm h tests).symm⟩
  intro i t ht
  have hget : (reconcile records tests)[i]? =
      some (((records.filter (isAbout t.id))[placeAmong tests t.id i]?).getD (missing t)) := by
    rw [getElem?_reconcile, answering?, ht, Option.map_some, Option.bind_some]
  constructor
  · intro r hr
    rw [hget, hr, Option.getD_some]
  · intro hnone
    rw [hget, hnone, Option.getD_none]
    exact ⟨missing t, rfl, rfl, rfl, rfl⟩

/-- Of three tests with one identifier the third has no record, since a record of a test that is
not there does not count. -/
theorem reconcile_matches_shared_ids :
    let test (id : Int) : TestCase := ⟨.number (.int id), [], .null⟩
    let record (id : Int) (status : RecordStatus) : TestRecord :=
      ⟨.number (.int id), status, .null, .null, none, none, none⟩
    let records := [record 1 .passed, record 7 .passed, record 1 .failed]
    let tests := [test 1, test 2, test 1, test 1]
    (reconcile records tests)[2]? = some (record 1 .failed) ∧
      (∃ r, (reconcile records tests)[3]? = some r ∧ r.status = .error) ∧
      DistinctIds [record 7 .failed, record 1 .passed] ∧
      reconcile [record 1 .passed, record 7 .failed] tests =
        reconcile [record 7 .failed, record 1 .passed] tests := by
  intro test record records tests
  obtain ⟨-, hmatches, -⟩ := reconcile_matches records tests
  obtain ⟨-, -, -, -, hperm⟩ := reconcile_matches [record 7 .failed, record 1 .passed] tests
  obtain ⟨r, hr, hstatus, -⟩ := (hmatches 3 (test 1) rfl).2 rfl
  have hdistinct : DistinctIds [record 7 .failed, record 1 .passed] :=
    List.pairwise_pair.mpr rfl
  exact ⟨(hmatches 2 (test 1) rfl).1 _ rfl, ⟨r, hr, hstatus⟩, hdistinct,
    hperm _ (List.Perm.swap _ _ _) hdistinct⟩

end CodeJudge.TestRecord
