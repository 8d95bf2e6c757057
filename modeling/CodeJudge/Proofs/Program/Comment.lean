import CodeJudge.Proofs.Driver.Cpp
import CodeJudge.Proofs.Program.Skeleton
import CodeJudge.Proofs.Solution.Import
import CodeJudge.Proofs.Solution.Java
/-!
Comments in a solution. A class is looked for in the whole code, so a comment that names one is
taken for its declaration: in C++ the function is called on an object, and in Java no class is put
around the code.
-/
namespace CodeJudge

open Solution (Declares declares_class_iff)

/-- The code with a comment behind it, on a line of its own. -/
def withComment (code comment : String) : String := code ++ "\n// " ++ comment

theorem declares_comment_iff {cs comment : List Char} :
    Declares (cs ++ ("// ".toList ++ comment)) ↔ Declares cs ∨ Declares comment := by
  have hnone : ¬ Declares [] := by
    rintro ⟨front, w, rest, hnil, hw, -⟩
    exact hw.ne_nil (List.append_eq_nil_iff.mp (List.append_eq_nil_iff.mp hnil.symm).2).1
  have hslash : Text.isWord '/' = false ∧ Text.isBlank '/' = false := by decide
  change Declares (cs ++ '/' :: ([] ++ '/' :: ' ' :: comment)) ↔ _
  rw [Solution.declares_parted_iff hslash.1 hslash.2,
    Solution.declares_parted_iff hslash.1 hslash.2, Solution.declares_cons_iff (by decide),
    or_iff_right hnone]

theorem declares_with_comment_iff {code comment : String} :
    Declares (withComment code comment).toList ↔
      Declares code.toList ∨ Declares comment.toList := by
  have hcode : (withComment code comment).toList =
      (code.toList ++ ['\n']) ++ ("// ".toList ++ comment.toList) := by
    simp [withComment]
  rw [hcode, declares_comment_iff, Solution.declares_concat_iff (by decide)]

/-! Java. -/

namespace JavaSource

/-- A class is put around what is kept of the code. -/
def Encloses (code : String) : Prop :=
  (ofCode code).body = "class Solution \x7b\n" ++
    Text.trimNewlines (hideClass (Text.joinLines (keptLines code))) ++ "\n\x7d"

theorem encloses_iff {code : String} :
    Encloses code ↔ ¬ Declares (Text.joinLines (keptLines code)).toList := by
  rw [Encloses, body_eq, enclose, ← declares_hide_class_iff, ← declares_class_iff]
  split_ifs with h
  · rw [iff_false_right (not_not_intro h)]
    intro hbody
    have hlength := congrArg String.length hbody
    rw [String.length_append, String.length_append] at hlength
    have hshell : 0 < "class Solution \x7b\n".length := by decide
    omega
  · exact iff_of_true rfl h

theorem occurs_return (l : String) : importLine.occurs (l ++ "\r") = importLine.occurs l ∧
    packageLine.occurs (l ++ "\r") = packageLine.occurs l := by
  have htrimmed : Text.trimmed (l ++ "\r").toList = Text.trimmed l.toList := by
    rw [String.toList_append]
    exact Text.trimmed_return l.toList
  constructor
  · rw [Bool.eq_iff_iff, import_line_iff, import_line_iff, htrimmed]
  · rw [Bool.eq_iff_iff, package_line_iff, package_line_iff, htrimmed]

theorem declares_join_concat_empty (ls : List String) :
    Declares (Text.joinLines (ls ++ [""])).toList ↔ Declares (Text.joinLines ls).toList := by
  obtain ⟨front, hfront, rfl | ⟨rfl, rfl⟩⟩ := Text.exists_join_concat ls
  · rw [hfront, String.toList_empty, List.append_nil]
    exact Solution.declares_concat_iff (by decide)
  · rw [hfront]
    exact Iff.rfl

theorem declares_join_concat_return (ls : List String) (l : String) :
    Declares (Text.joinLines (ls ++ [l ++ "\r"])).toList ↔
      Declares (Text.joinLines (ls ++ [l])).toList := by
  obtain ⟨front, hfront, -⟩ := Text.exists_join_concat ls
  rw [hfront, hfront, String.toList_append, ← List.append_assoc]
  exact Solution.declares_concat_iff (by decide)

theorem declares_join_concat_comment (ls : List String) (comment : String) :
    Declares (Text.joinLines (ls ++ ["// " ++ comment])).toList ↔
      Declares (Text.joinLines ls).toList ∨ Declares comment.toList := by
  obtain ⟨front, hfront, -⟩ := Text.exists_join_concat ls
  have hempty := declares_join_concat_empty ls
  rw [hfront, show "".toList = [] from rfl, List.append_nil] at hempty
  rw [hfront, String.toList_append, declares_comment_iff, hempty]

/-- A comment is neither an import nor a package, so its line is kept. -/
theorem occurs_comment (comment : String) : importLine.occurs ("// " ++ comment) = false ∧
    packageLine.occurs ("// " ++ comment) = false := by
  have hbegins : Text.beginsVisible ['/'] = true := rfl
  obtain ⟨es, hes⟩ := Text.exists_trimmed_append hbegins ('/' :: ' ' :: comment.toList)
  have htrimmed : Text.trimmed ("// " ++ comment).toList = '/' :: es := by
    rw [String.toList_append]
    exact hes
  constructor
  · rw [Bool.eq_false_iff, Ne, import_line_iff, htrimmed]
    rintro ⟨gap, name, star, space, h, -⟩
    cases h
  · rw [Bool.eq_false_iff, Ne, package_line_iff, htrimmed]
    rintro ⟨gap, name, space, h, -⟩
    cases h

/-- A comment is a line of its own behind the lines of the code, the last of which is ended. -/
theorem lines_of_with_comment {comment : String} (hc : '\n' ∉ comment.toList) (code : String) :
    Text.linesOf (withComment code comment) =
      (Text.lines (code.toList ++ ['\n'])).map String.ofList ++ ["// " ++ comment] := by
  have hlast : Text.lines ("// ".toList ++ comment.toList) = ["// ".toList ++ comment.toList] :=
    Text.lines_line (by simp) (by simp [hc])
  have hcode : (withComment code comment).toList =
      code.toList ++ '\n' :: ("// ".toList ++ comment.toList) := by simp [withComment]
  rw [Text.linesOf, hcode, Text.lines_append_newline, hlast, List.map_append, List.map_singleton,
    ← String.toList_append, String.ofList_toList]

/-- The comment is kept, and what its line end does to the last line of the code is of no
account. -/
theorem exists_kept_with_comment {comment : String} (hc : '\n' ∉ comment.toList) (code : String) :
    ∃ ended, keptLines (withComment code comment) = ended ++ ["// " ++ comment] ∧
      (Declares (Text.joinLines ended).toList ↔
        Declares (Text.joinLines (keptLines code)).toList) := by
  let keep : String → Bool := fun l => !importLine.occurs l && !packageLine.occurs l
  refine ⟨((Text.lines (code.toList ++ ['\n'])).map String.ofList).filter keep, ?_, ?_⟩
  · obtain ⟨himport, hpackage⟩ := occurs_comment comment
    rw [keptLines, lines_of_with_comment hc, List.filter_append, List.filter_singleton, himport,
      hpackage]
    rfl
  · change Declares _ ↔ Declares (Text.joinLines (((Text.lines code.toList).map
      String.ofList).filter keep)).toList
    -- the line end makes no line, an empty one, or takes a carriage return from the last one
    rcases Text.lines_ended code.toList with h | h | ⟨front, l, h, hend⟩
    · rw [h]
    · rw [h, List.map_append, List.filter_append]
      exact declares_join_concat_empty _
    · rw [h, hend, List.map_append, List.map_append, List.filter_append, List.filter_append,
        List.map_singleton, List.map_singleton, String.ofList_append]
      have hkeep : keep (String.ofList l ++ String.ofList ['\r']) = keep (String.ofList l) := by
        obtain ⟨himport, hpackage⟩ := occurs_return (String.ofList l)
        exact congrArg₂ (fun i p => !i && !p) himport hpackage
      cases hl : keep (String.ofList l) with
      | false =>
        rw [List.filter_cons_of_neg (by simp [hl]), List.filter_cons_of_neg (by simp [hkeep, hl])]
      | true =>
        rw [List.filter_cons_of_pos hl, List.filter_cons_of_pos (hkeep.trans hl)]
        exact (declares_join_concat_return _ _).symm

/-- A comment decides whether a class is put around the code if it names the class and the code does
not declare it. -/
theorem encloses_with_comment_iff {comment : String} (hc : '\n' ∉ comment.toList) (code : String) :
    (Encloses (withComment code comment) ↔ Encloses code) ↔
      (Declares comment.toList → Declares (Text.joinLines (keptLines code)).toList) := by
  obtain ⟨ended, hkept, hended⟩ := exists_kept_with_comment hc code
  rw [encloses_iff, encloses_iff, hkept, declares_join_concat_comment, hended, not_iff_not,
    or_iff_left_iff_imp]

end JavaSource

/-! C++. -/

namespace Plan

variable {q : Char → Bool} (hq : ∀ c, q c = true → Text.isBlank c = false)

include hq

theorem count_branch (statements : List String) :
    (branch statements).toList.countP q = (statements.map fun s => s.toList.countP q).sum := by
  have hn : q '\n' = false := by
    by_contra h
    exact absurd (hq '\n' (Bool.not_eq_false _ ▸ h)) (by decide)
  rw [branch, Text.count_indent hq, Text.count_join_lines hn]

/-- What a block is longer by for what the function is called on. -/
theorem count_cpp_block (p : Plan) (test : TestCase) (receiver : String) :
    (p.cppBlock test receiver).toList.countP q =
      (p.cppBlock test "").toList.countP q + receiver.toList.countP q := by
  have hcall : (p.cppCall receiver).toList.countP q =
      (p.cppCall "").toList.countP q + receiver.toList.countP q := by
    unfold cppCall
    simp only [String.toList_append, List.countP_append, String.toList_empty, List.countP_nil]
    omega
  simp only [cppBlock, cppCase, cpp_attempt_eq, String.toList_append, List.countP_append,
    count_branch hq, List.map_append, List.map_cons, List.map_nil, List.sum_append, List.sum_cons,
    List.sum_nil, hcall]
  omega

theorem count_cpp_blocks (p : Plan) (code : String) (tests : List TestCase) :
    (p.cppBlocks code tests).toList.countP q =
      (tests.map fun t => (p.cppBlock t "").toList.countP q).sum +
        tests.length * (cppReceiver code).toList.countP q := by
  rw [cppBlocks, count_branch hq, List.map_map]
  simp only [Function.comp_def, count_cpp_block hq p _ (cppReceiver code)]
  rw [List.sum_map_add, List.map_const', List.sum_replicate, smul_eq_mul]

omit hq

/-- The calls of a driver show what the function is called on. -/
theorem receiver_eq_of_driver {p : Plan} {code other : String} {tests : List TestCase}
    (hne : tests ≠ []) (h : p.cppDriver other tests = p.cppDriver code tests) :
    cppReceiver other = cppReceiver code := by
  -- the name of the class is the only capital `S` that is not there without it
  have hq : ∀ c, (c == 'S') = true → Text.isBlank c = false := by
    intro c hc
    rw [eq_of_beq hc]
    decide
  rw [cpp_driver_text, cpp_driver_text] at h
  have hcount := congrArg (fun s => s.toList.countP (· == 'S')) h
  simp only [Template.endedLines, List.map_cons, List.map_nil, String.join_cons, String.join_nil,
    String.toList_append, List.countP_append, count_cpp_blocks hq] at hcount
  have hlength := List.length_pos_iff.mpr hne
  have hreceiver : (cppReceiver other).toList.countP (· == 'S') =
      (cppReceiver code).toList.countP (· == 'S') := by
    refine Nat.eq_of_mul_eq_mul_left hlength ?_
    omega
  revert hreceiver
  rw [cppReceiver, cppReceiver]
  split_ifs <;> decide

/-- Code counts for a driver in so far as there are tests and it declares its class or not. -/
theorem cpp_driver_eq_iff (p : Plan) (code other : String) (tests : List TestCase) :
    p.cppDriver other tests = p.cppDriver code tests ↔
      (tests ≠ [] → (Declares other.toList ↔ Declares code.toList)) := by
  rw [← declares_class_iff, ← declares_class_iff, ← Bool.eq_iff_iff]
  constructor
  · intro h hne
    have hreceiver := receiver_eq_of_driver hne h
    rw [cppReceiver, cppReceiver] at hreceiver
    revert hreceiver
    cases Solution.declaresClass other <;> cases Solution.declaresClass code <;> decide
  · intro h
    rw [cpp_driver_text, cpp_driver_text, cppBlocks, cppBlocks]
    by_cases hne : tests = []
    · rw [hne, List.map_nil, List.map_nil]
    · rw [cppReceiver, cppReceiver, h hne]

end Plan

namespace Program

theorem exists_generate_with_comment {r : Registry} {tolerance : Binary64} {t : Target}
    {code : String} {p : Problem} {tests : List TestCase} {prog : Program}
    (h : generate r tolerance t code p tests = .ok prog) (comment : String) :
    ∃ plan : Plan, plan.target = t ∧ prog = plan.assembled code tests ∧
      generate r tolerance t (withComment code comment) p tests =
        .ok (plan.assembled (withComment code comment) tests) := by
  obtain ⟨-, plan, hbuild, rfl⟩ := exists_build h
  have hvisible : Text.isBlankText (withComment code comment) = false := by
    refine (Text.not_blank_iff _).mpr ⟨'/', ?_, by decide⟩
    simp [withComment]
  exact ⟨plan, Plan.target_of_build hbuild, rfl, generate_of_build hvisible hbuild⟩

/-- A comment behind the code goes unnoticed unless it names the class and the code does not. In
C++ what counts is the code as it is, and whether there is any test; in Java what is kept of it. -/
theorem comment_unnoticed_iff {comment : String} (hc : '\n' ∉ comment.toList) (code : String) :
    (∀ r tolerance problem tests prog,
      generate r tolerance .cpp code problem tests = .ok prog →
      ∃ other, generate r tolerance .cpp (withComment code comment) problem tests = .ok other ∧
        (other.driver = prog.driver ↔
          (tests ≠ [] → Declares comment.toList → Declares code.toList))) ∧
    ((JavaSource.Encloses (withComment code comment) ↔ JavaSource.Encloses code) ↔
      (Declares comment.toList →
        Declares (Text.joinLines (JavaSource.keptLines code)).toList)) := by
  refine ⟨fun r tolerance problem tests prog hprog => ?_,
    JavaSource.encloses_with_comment_iff hc code⟩
  obtain ⟨plan, htarget, rfl, hother⟩ := exists_generate_with_comment hprog comment
  refine ⟨_, hother, ?_⟩
  rw [Plan.driver_of_cpp htarget, Plan.driver_of_cpp htarget, Plan.cpp_driver_eq_iff,
    declares_with_comment_iff, or_iff_left_iff_imp]

theorem exists_generate_one {code : String} (hcode : Text.isBlankText code = false) :
    ∃ prog, generate .standard Settings.defaultTolerance .cpp code (Problem.named "one")
      [⟨.nat 1, [], .nat 1⟩] = .ok prog :=
  exists_generate Settings.defaultTolerance hcode
    (Plan.plannable_standard rfl (.inr rfl) (List.forall_mem_singleton.mpr rfl))

/-- The comment names a struct that the code declares. -/
theorem comment_unnoticed_of_struct :
    let code := "struct Solution \x7b int one() \x7b return 1; \x7d \x7d;"
    let comment := "the struct Solution, not class Solutions"
    let tests : List TestCase := [⟨.nat 1, [], .nat 1⟩]
    ∃ prog other, '\n' ∉ comment.toList ∧
      generate .standard Settings.defaultTolerance .cpp code (Problem.named "one") tests =
        .ok prog ∧
      generate .standard Settings.defaultTolerance .cpp (withComment code comment)
        (Problem.named "one") tests = .ok other ∧ other.driver = prog.driver ∧
      (JavaSource.Encloses (withComment code comment) ↔ JavaSource.Encloses code) := by
  intro code comment tests
  have hc : '\n' ∉ comment.toList := by decide
  obtain ⟨prog, hprog⟩ := exists_generate_one (show Text.isBlankText code = false by decide)
  obtain ⟨hcpp, hjava⟩ := comment_unnoticed_iff hc code
  obtain ⟨other, hother, hdriver⟩ := hcpp _ _ _ _ prog hprog
  have hcode : Declares code.toList := declares_class_iff.mp (by decide)
  have hkept : Declares (Text.joinLines (JavaSource.keptLines code)).toList :=
    declares_class_iff.mp (by decide)
  exact ⟨prog, other, hc, hprog, hother, hdriver.mpr fun _ _ => hcode, hjava.mpr fun _ => hkept⟩

/-- Code without a class, and a comment that speaks of one. -/
theorem comment_noticed_of_class :
    let code := "int one() \x7b return 1; \x7d"
    let comment := "class Solution"
    let tests : List TestCase := [⟨.nat 1, [], .nat 1⟩]
    ∃ prog other, '\n' ∉ comment.toList ∧
      generate .standard Settings.defaultTolerance .cpp code (Problem.named "one") tests =
        .ok prog ∧
      generate .standard Settings.defaultTolerance .cpp (withComment code comment)
        (Problem.named "one") tests = .ok other ∧ other.driver ≠ prog.driver ∧
      JavaSource.Encloses code ∧ ¬ JavaSource.Encloses (withComment code comment) := by
  intro code comment tests
  have hcode : ¬ Declares code.toList := by
    rw [← declares_class_iff]
    decide
  have hkept : ¬ Declares (Text.joinLines (JavaSource.keptLines code)).toList := by
    rw [← declares_class_iff]
    decide
  have hcomment : Declares comment.toList := declares_class_iff.mp (by decide)
  obtain ⟨prog, hprog⟩ := exists_generate_one (show Text.isBlankText code = false by decide)
  obtain ⟨plan, htarget, rfl, hother⟩ := exists_generate_with_comment hprog comment
  refine ⟨_, _, by decide, hprog, hother, ?_, JavaSource.encloses_iff.mpr hkept, ?_⟩
  · rw [Plan.driver_of_cpp htarget, Plan.driver_of_cpp htarget, Ne, Plan.cpp_driver_eq_iff,
      declares_with_comment_iff]
    intro h
    exact hcode ((h (List.cons_ne_nil _ _)).mp (.inr hcomment))
  · rw [JavaSource.encloses_iff, ← declares_class_iff]
    decide

end Program

end CodeJudge
