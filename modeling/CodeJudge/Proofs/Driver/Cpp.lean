import CodeJudge.Driver.Cpp
import CodeJudge.Proofs.Json.Arrangement
import CodeJudge.Proofs.Json.Value
import CodeJudge.Proofs.Literal.Cpp
import CodeJudge.Proofs.Plan.Names
import CodeJudge.Proofs.Template.Render
import CodeJudge.Proofs.Text.Scan
/-!
The lines of a C++ driver. A block is made of statements, and those that hold values begin in one of
a few ways, so whoever looks for anything else finds it in the other statements, in their order.
This gives the lines that say what the records are about: each block declares the identifier of its
test and the expected output, and no other line of the driver, whatever values it holds, looks like
one of these.
-/
namespace CodeJudge

open Json (Printable)
open Text (Scanner)

/-! Lines that hold values. -/

namespace CppLine

/-- What the lines of a block that hold values begin with, and those that are the same in every
block. -/
def openings : List String :=
  ["int", "long long", "double", "bool", "string", "char", "vector<", "ListNode*", "TreeNode*",
    "const auto&", "auto", "emitRecord("]

/-- The line begins in one of these ways. -/
def Opens (cs : List Char) : Prop := ∃ w ∈ openings, w.toList <+: cs

/-- Nothing is found on a line that begins in one of these ways. -/
def Passes {α : Type} (k : Scanner α) : Prop := ∀ w ∈ openings, k.Ignores w

variable {α : Type} {k : Scanner α} (hk : Passes k)

include hk

theorem Passes.scan {cs : List Char} (h : Opens cs) (hn : '\n' ∉ cs) : k.scan cs = [] := by
  obtain ⟨w, hw, hbegins⟩ := h
  exact (hk w hw).scan hbegins hn

/-- A line that holds no values. -/
theorem Passes.scan_literal (w : String) (h : w ∈ openings) {line : String}
    (hline : w.toList <+: line.toList ∧ '\n' ∉ line.toList) : k.scan line.toList = [] :=
  hk.scan ⟨w, h, hline.1⟩ hline.2

end CppLine

theorem Scalar.cpp_type_mem_openings (s : Scalar) : s.cppType ∈ CppLine.openings := by
  cases s <;> decide

namespace BaseType

variable (b : BaseType) (s : Scalar)

theorem opens_vector_type (depth : Nat) {cs : List Char}
    (h : (Literal.Cpp.vectorType s (depth + 1)).toList <+: cs) : CppLine.Opens cs := by
  refine ⟨"vector<", by decide, List.IsPrefix.trans ?_ h⟩
  exact Text.prefix_text_append (Text.prefix_text_append List.prefix_rfl _) _

theorem opens_native_type {cs : List Char} (h : (b.nativeType s .cpp).toList <+: cs) :
    CppLine.Opens cs := by
  cases b with
  | primitive => exact ⟨s.cppType, s.cpp_type_mem_openings, h⟩
  | array => exact opens_vector_type s 0 h
  | matrix => exact opens_vector_type s 1 h
  | linkedList => exact ⟨"ListNode*", by decide, h⟩
  | tree => exact ⟨"TreeNode*", by decide, h⟩
  | graph => exact opens_vector_type .int 1 h

theorem opens_flat_type {cs : List Char} (h : (b.cppFlatType s).toList <+: cs) :
    CppLine.Opens cs := by
  cases b with
  | primitive => exact opens_native_type .primitive s h
  | array => exact opens_vector_type s 0 h
  | matrix => exact opens_vector_type s 1 h
  | linkedList => exact opens_vector_type .int 0 h
  | tree =>
    have hbegins : "vector<".toList <+: cppLevelOrderType.toList := by decide
    exact ⟨"vector<", by decide, hbegins.trans h⟩
  | graph => exact opens_vector_type .int 1 h

variable {α : Type} {k : Scanner α} (hk : CppLine.Passes k)

include hk

theorem scan_parse_fragment_cpp (site : ParseSite) (h : '\n' ∉ site.variableName.toList) :
    k.scan (b.parseFragment site .cpp).toList = [] := by
  have htype := (b.printable_native_type_cpp site.scalar).not_newline
  have hflat := b.printable_cpp_flat site.scalar (site.value.getD .null)
  have hbuild := (b.printable_cpp_build hflat).not_newline
  apply hk.scan
  · apply opens_native_type b site.scalar
    simp [parseFragment, String.toList_append]
  · simp [parseFragment, htype, hbuild, h]

theorem scan_cpp_actual (site : SerializeSite) (hresult : '\n' ∉ site.result.toList)
    (hactual : '\n' ∉ site.actual.toList) : k.scan (b.cppActual site).toList = [] := by
  have htype := (b.printable_cpp_flat_type site.scalar).not_newline
  apply hk.scan
  · cases b with
    | linkedList => exact opens_flat_type .linkedList site.scalar (by simp [cppActual])
    | tree => exact opens_flat_type .tree site.scalar (by simp [cppActual])
    | primitive | array | matrix | graph =>
      refine ⟨"const auto&", by decide, ?_⟩
      simp [cppActual]
  · cases b with
    | linkedList | tree => simp [cppActual, htype, hresult, hactual]
    | primitive | array | matrix | graph => simp [cppActual, hresult, hactual]

theorem scan_serialize_fragment_cpp (site : SerializeSite) (hresult : '\n' ∉ site.result.toList)
    (hactual : '\n' ∉ site.actual.toList) (hexpected : '\n' ∉ site.expected.toList) :
    k.scan (b.serializeFragment site .cpp).toList = [] := by
  have htype := (b.printable_cpp_flat_type site.scalar).not_newline
  have hflat := (b.printable_cpp_flat site.scalar (site.value.getD .null)).not_newline
  have hdeclared := b.scan_cpp_actual hk site hresult hactual
  have hvalue : k.scan (b.cppFlatType site.scalar ++ " " ++ site.expected ++ " = "
      ++ b.cppFlat site.scalar (site.value.getD .null) ++ ";").toList = [] := by
    apply hk.scan
    · apply opens_flat_type b site.scalar
      simp [String.toList_append]
    · simp [htype, hflat, hexpected]
  have hlines : b.serializeFragment site .cpp = b.cppActual site ++ "\n"
      ++ b.cppFlatType site.scalar ++ " " ++ site.expected ++ " = "
        ++ b.cppFlat site.scalar (site.value.getD .null) ++ ";" := rfl
  simp only [String.append_assoc] at hlines hvalue
  rw [hlines, ← String.append_assoc, Text.to_list_two_lines, Scanner.scan_append_newline,
    hdeclared, hvalue]
  rfl

end BaseType

/-! Blocks. -/

namespace Plan

/-- The statement that calls the function. -/
def cppCall (p : Plan) (receiver : String) : String :=
  "auto _result = " ++ receiver ++ p.functionName ++ "(" ++ p.argumentList ++ ");"

theorem cpp_attempt_eq (p : Plan) (test : TestCase) (receiver : String) :
    p.cppAttempt test receiver =
      [p.cppCall receiver, "double _elapsed = elapsedMs(_start);",
        p.output.fragment "_" (some test.output) p.target,
        "bool _passed = deepEqual(_actual, _expected);",
        "emitRecord(recordJson(_caseId, _passed ? \"PASSED\" : \"FAILED\", toJson(_actual), "
          ++ "_expectedJson, _elapsed, \"\"));"] ++ releaseCalls p.allReleases := rfl

section

variable {α : Type} {k : Scanner α} (hk : CppLine.Passes k) {p : Plan} (ht : p.target = .cpp)

include hk

/-- A branch in which the call fails has its releases behind one other statement. -/
theorem scan_cpp_failure (failure : String) (hfailure : '\n' ∉ failure.toList) :
    ((p.cppFailure failure).flatMap fun s => k.scan s.toList) =
      (releaseCalls p.inputReleases).flatMap fun s => k.scan s.toList := by
  have hrecord : k.scan
      ("emitRecord(recordJson(_caseId, \"ERROR\", \"null\", _expectedJson, elapsedMs(_start), "
        ++ failure ++ "));").toList = [] := by
    apply hk.scan
    · refine ⟨"emitRecord(", by decide, ?_⟩
      exact Text.prefix_text_append (Text.prefix_text_append (by decide) _) _
    · refine Text.newline_not_mem_append (Text.newline_not_mem_append ?_ hfailure) ?_ <;>
        decide
  rw [cppFailure, List.flatMap_append, List.flatMap_singleton, hrecord, List.nil_append]

include ht

theorem scan_parse_fragments_cpp
    (hvars : ∀ param ∈ p.params, '\n' ∉ param.variableName.toList) (test : Option TestCase) :
    ((p.parseFragments test).flatMap fun s => k.scan s.toList) = [] := by
  rw [List.flatMap_eq_nil_iff]
  intro s hs
  obtain ⟨⟨index, param⟩, hparam, rfl⟩ := List.mem_map.mp hs
  rw [ht]
  exact BaseType.scan_parse_fragment_cpp _ hk _ (hvars param (mem_numbered_from hparam))

/-- The branch in which the call returns has its releases behind the call. -/
theorem scan_cpp_attempt (test : TestCase) (receiver : String) :
    ((p.cppAttempt test receiver).flatMap fun s => k.scan s.toList) =
      k.scan (p.cppCall receiver).toList ++
        (releaseCalls p.allReleases).flatMap fun s => k.scan s.toList := by
  have hresult : k.scan (p.output.fragment "_" (some test.output) p.target).toList = [] := by
    rw [ht]
    exact BaseType.scan_serialize_fragment_cpp _ hk _ (by simp) (by simp) (by simp)
  have helapsed : k.scan "double _elapsed = elapsedMs(_start);".toList = [] :=
    hk.scan_literal "double" (by decide) (by decide)
  have hpassed : k.scan "bool _passed = deepEqual(_actual, _expected);".toList = [] :=
    hk.scan_literal "bool" (by decide) (by decide)
  have hrecord : k.scan
      ("emitRecord(recordJson(_caseId, _passed ? \"PASSED\" : \"FAILED\", toJson(_actual), "
        ++ "_expectedJson, _elapsed, \"\"));").toList = [] :=
    hk.scan_literal "emitRecord(" (by decide) (by decide)
  rw [cpp_attempt_eq, List.flatMap_append]
  simp only [List.flatMap_cons, List.flatMap_nil, List.append_nil, helapsed, hresult, hpassed,
    hrecord]

/-- What is found in a block, by a scanner that passes over the lines with values and takes no
notice of their depth. -/
theorem scan_cpp_block (hdeeper : ∀ width, k.deeper width = k)
    (hvars : ∀ param ∈ p.params, '\n' ∉ param.variableName.toList) (test : TestCase)
    (receiver : String) :
    k.scan (p.cppBlock test receiver).toList =
      k.scan ['\x7b'] ++
        (k.scan ("const string _caseId = " ++ Literal.Cpp.string test.idText ++ ";").toList ++
          k.scan ("const string _expectedJson = " ++ Literal.Cpp.string test.outputText
            ++ ";").toList ++
        (k.scan "try \x7b".toList ++ (k.scan (p.cppCall receiver).toList ++
          (releaseCalls p.allReleases).flatMap fun s => k.scan s.toList)) ++
        (k.scan "\x7d catch (const exception& _e) \x7b".toList ++
          (releaseCalls p.inputReleases).flatMap fun s => k.scan s.toList) ++
        (k.scan "\x7d catch (...) \x7b".toList ++
          (releaseCalls p.inputReleases).flatMap fun s => k.scan s.toList) ++
        k.scan "\x7d".toList) ++ k.scan ['\x7d'] := by
  -- a branch is scanned line by line, since the scanner takes no notice of its depth
  have hbranch (ls : List String) :
      k.scan (branch ls).toList = ls.flatMap fun s => k.scan s.toList := by
    rw [branch, Scanner.scan_indent, hdeeper, Scanner.scan_join_lines]
  have hstart : k.scan "auto _start = chrono::steady_clock::now();".toList = [] :=
    hk.scan_literal "auto" (by decide) (by decide)
  have hblock : (p.cppBlock test receiver).toList =
      ['\x7b'] ++ '\n' :: ((branch (p.cppCase test receiver)).toList ++ '\n' :: ['\x7d']) := by
    simp [cppBlock]
  rw [hblock, Scanner.scan_append_newline, Scanner.scan_append_newline, hbranch, cppCase,
    List.flatMap_append, List.flatMap_append, scan_parse_fragments_cpp hk ht hvars]
  simp only [List.flatMap_cons, List.flatMap_nil, hbranch, hstart,
    scan_cpp_attempt hk ht test receiver,
    scan_cpp_failure hk _ (show '\n' ∉ "_e.what()".toList by decide),
    scan_cpp_failure hk _ (show '\n' ∉ "\"unknown exception\"".toList by decide), List.nil_append,
    List.append_nil, List.append_assoc]

end

/-! The whole driver. -/

/-- What the function is called on. -/
def cppReceiver (code : String) : String :=
  if Solution.declaresClass code then "Solution()." else ""

theorem newline_not_mem_receiver (code : String) : '\n' ∉ (cppReceiver code).toList := by
  rw [cppReceiver]
  split_ifs <;> decide

/-- The text of the blocks in a driver. -/
def cppBlocks (p : Plan) (code : String) (tests : List TestCase) : String :=
  branch (tests.map fun t => p.cppBlock t (cppReceiver code))

theorem fill_cpp_driver {data : Json.Value} {blocks : String}
    (hblocks : data.get? "cases" = some (.string blocks)) :
    Template.Cpp.driver.fill data = Template.endedLines
      ["int main() \x7b", blocks, "    printRecords();", "    return 0;", "\x7d"] := by
  have hmain := Template.render_all_lines_append
    (Template.render_all_rows data data ["int main() \x7b"]) (Template.render_row_hole hblocks)
  have hall := Template.render_all_lines_append hmain
    (Template.render_all_rows data data ["    printRecords();", "    return 0;", "\x7d"])
  rw [Template.fill, Template.render, Template.Cpp.driver, hall]
  rfl

theorem cpp_driver_text (p : Plan) (code : String) (tests : List TestCase) :
    p.cppDriver code tests = Template.endedLines
      ["int main() \x7b", p.cppBlocks code tests, "    printRecords();", "    return 0;",
        "\x7d"] := by
  rw [cppDriver]
  exact fill_cpp_driver rfl

/-- What is found in a driver is what is found in its blocks, in order. -/
theorem scan_cpp_driver_of {α : Type} {k : Scanner α} (hdeeper : ∀ width, k.deeper width = k)
    (p : Plan) (code : String) (tests : List TestCase) :
    k.scan (p.cppDriver code tests).toList =
      k.scan "int main() \x7b".toList ++
        (tests.flatMap fun t => k.scan (p.cppBlock t (cppReceiver code)).toList) ++
        (k.scan "    printRecords();".toList ++ (k.scan "    return 0;".toList ++
          k.scan "\x7d".toList)) := by
  have hblocks : k.scan (p.cppBlocks code tests).toList =
      tests.flatMap fun t => k.scan (p.cppBlock t (cppReceiver code)).toList := by
    rw [cppBlocks, branch, Scanner.scan_indent, hdeeper, Scanner.scan_join_lines, List.flatMap_map]
  rw [cpp_driver_text, Template.endedLines, Scanner.scan_join_ended]
  simp only [List.flatMap_cons, List.flatMap_nil, hblocks, List.append_nil, List.append_assoc]

end Plan

/-! Declarations. -/

/-- A line of a C++ driver that declares a string, with the text that its literal is read as. -/
inductive CppMark where
  | caseId (text : Option String)
  | expected (text : Option String)
  deriving DecidableEq, Repr

/-- Finds the declarations of identifiers and of expected outputs. -/
def cppMarks : Scanner CppMark :=
  (Scanner.startingWith "const string _caseId = " (by decide) fun l =>
    .caseId ((Literal.Cpp.initialText? l).map String.ofList)).orElse
  (Scanner.startingWith "const string _expectedJson = " (by decide) fun l =>
    .expected ((Literal.Cpp.initialText? l).map String.ofList))

namespace CppMark

/-- The routines that release the structures of a test. -/
def routines : List String := ["freeLinkedLists", "freeTrees"]

theorem openings_apart : ∀ w ∈ CppLine.openings ++ routines, Text.beginsVisible w.toList = true ∧
    Scanner.Apart "const string _caseId = ".toList (Text.trimmed w.toList) ∧
      Scanner.Apart "const string _expectedJson = ".toList (Text.trimmed w.toList) := by
  decide

theorem ignores_opening {w : String} (h : w ∈ CppLine.openings ++ routines) :
    cppMarks.Ignores w := by
  obtain ⟨hvisible, hid, hexpected⟩ := openings_apart w h
  exact Scanner.Ignores.orElse (.starting_with hvisible hid) (.starting_with hvisible hexpected)

theorem passes : CppLine.Passes cppMarks := fun _ hw => ignores_opening (List.mem_append_left _ hw)

theorem scan_case_id (s : String) :
    cppMarks.scan ("const string _caseId = " ++ Literal.Cpp.string s ++ ";").toList =
      [.caseId (some s)] := by
  have hliteral := (Literal.Cpp.printable_string s).not_newline
  rw [Scanner.scan_declaration _ (by decide) (by decide) hliteral, cppMarks,
    Scanner.find_or_else, Scanner.find_starting_with_key, Literal.Cpp.initial_text_string]
  simp

theorem scan_expected (s : String) :
    cppMarks.scan ("const string _expectedJson = " ++ Literal.Cpp.string s ++ ";").toList =
      [.expected (some s)] := by
  have hliteral := (Literal.Cpp.printable_string s).not_newline
  have hapart : Scanner.Apart "const string _caseId = ".toList
      "const string _expectedJson = ".toList := by decide
  rw [Scanner.scan_declaration _ (by decide) (by decide) hliteral, cppMarks,
    Scanner.find_or_else, Scanner.find_starting_with_apart hapart,
    Scanner.find_starting_with_key, Literal.Cpp.initial_text_string]
  simp

end CppMark

/-! Releases. -/

/-- The variables that some releases give to a routine, each where it comes first. -/
def releasedBy (releases : List Release) (routine : String) : List String :=
  ((releases.filter (·.routine == routine)).map (·.variableName)).eraseDups

theorem mem_released_by_iff {releases : List Release} {routine name : String} :
    name ∈ releasedBy releases routine ↔ ⟨routine, name⟩ ∈ releases := by
  rw [releasedBy, List.mem_eraseDups, List.mem_map]
  constructor
  · rintro ⟨r, hr, rfl⟩
    obtain ⟨hr, hroutine⟩ := List.mem_filter.mp hr
    rwa [← eq_of_beq hroutine]
  · intro h
    exact ⟨_, List.mem_filter.mpr ⟨h, BEq.rfl⟩, rfl⟩

theorem erase_dups_concat (as : List String) (a : String) :
    (as ++ [a]).eraseDups =
      if as.eraseDups.contains a then as.eraseDups else as.eraseDups ++ [a] := by
  rw [List.eraseDups_append]
  by_cases ha : a ∈ as <;> simp [List.removeAll, List.eraseDups_cons, ha]

theorem released_by_concat (releases : List Release) (r : Release) :
    releasedBy (releases ++ [r]) r.routine =
      if (releasedBy releases r.routine).contains r.variableName then
        releasedBy releases r.routine
      else releasedBy releases r.routine ++ [r.variableName] := by
  rw [releasedBy, List.filter_append, List.filter_singleton, beq_self_eq_true, List.map_append]
  exact erase_dups_concat _ _

theorem released_by_concat_of_ne {releases : List Release} {r : Release} {routine : String}
    (h : r.routine ≠ routine) :
    releasedBy (releases ++ [r]) routine = releasedBy releases routine := by
  have hother : [r].filter (·.routine == routine) = [] := by simp [h]
  rw [releasedBy, List.filter_append, hother, List.append_nil, releasedBy]

/-- The releases put together, one after the other. -/
def grouped (releases : List Release) : List (String × List String) :=
  releases.foldl groupRelease []

theorem grouped_concat (releases : List Release) (r : Release) :
    grouped (releases ++ [r]) = groupRelease (grouped releases) r :=
  List.foldl_concat ..

theorem ascending_grouped (releases : List Release) : Json.Ascending (grouped releases) := by
  induction releases using List.reverseRecOn with
  | nil => exact List.Pairwise.nil
  | append_singleton releases r ih =>
    rw [grouped_concat]
    exact Json.ascending_insert_member _ _ ih

/-- A routine that is among the releases has its variables, any other routine has no entry. -/
theorem lookup_grouped (releases : List Release) (routine : String) :
    (grouped releases).lookup routine =
      if releasedBy releases routine = [] then none else some (releasedBy releases routine) := by
  -- from the end: the loop puts each release behind those it has grouped so far
  induction releases using List.reverseRecOn with
  | nil => rfl
  | append_singleton releases r ih =>
    rw [grouped_concat, groupRelease, Json.lookup_insert_member]
    by_cases hroutine : routine = r.routine
    · subst hroutine
      have hsofar : ((grouped releases).lookup r.routine).getD [] =
          releasedBy releases r.routine := by
        rw [ih]
        split_ifs with hnone
        · exact hnone.symm
        · rfl
      have hsome : releasedBy (releases ++ [r]) r.routine ≠ [] :=
        List.ne_nil_of_mem (mem_released_by_iff.mpr (List.mem_append_right _ List.mem_cons_self))
      rw [beq_self_eq_true, if_pos rfl, if_neg hsome, released_by_concat, hsofar]
    · have hother : (routine == r.routine) = false := beq_eq_false_iff_ne.mpr hroutine
      rw [hother, released_by_concat_of_ne (Ne.symm hroutine), ih]
      rfl

/-- The groups are those of the routines that have anything to release. -/
theorem mem_grouped_iff {releases : List Release} {routine : String} {names : List String} :
    (routine, names) ∈ grouped releases ↔
      names = releasedBy releases routine ∧ names ≠ [] := by
  rw [(ascending_grouped releases).mem_iff, lookup_grouped]
  split_ifs with hnone
  · simp [hnone]
  · rw [Option.some_inj]
    constructor
    · rintro rfl
      exact ⟨rfl, hnone⟩
    · rintro ⟨rfl, -⟩
      rfl

/-- The release calls a routine of the driver with a variable that has a printable name. -/
def Release.IsCall (r : Release) : Prop :=
  r.routine ∈ CppMark.routines ∧ Printable r.variableName.toList

namespace Strategy

variable {strategy : Strategy} {t : Target} {name : String} {r : Release}

theorem routine_of_release (h : strategy.release? t name = some r) :
    r.routine ∈ CppMark.routines := by
  rw [release?] at h
  split_ifs at h
  split at h
  · cases h
    exact List.mem_cons_self
  · cases h
    exact List.mem_cons_of_mem _ List.mem_cons_self
  · cases h

theorem name_of_release (h : strategy.release? t name = some r) : r.variableName = name := by
  rw [release?] at h
  split_ifs at h
  split at h <;> cases h <;> rfl

theorem is_call_of_release (h : strategy.release? t name = some r) (hname : Printable name.toList) :
    r.IsCall :=
  ⟨routine_of_release h, by rwa [name_of_release h]⟩

end Strategy

/-- A call is one line that begins with a routine. -/
theorem release_call_line {releases : List Release} (h : ∀ r ∈ releases, r.IsCall) :
    ∀ call ∈ releaseCalls releases,
      (∃ w ∈ CppMark.routines, w.toList <+: call.toList) ∧ '\n' ∉ call.toList := by
  intro call hcall
  obtain ⟨⟨routine, names⟩, hgroup, rfl⟩ := List.mem_map.mp hcall
  obtain ⟨hnames, hne⟩ := mem_grouped_iff.mp hgroup
  have hcalls : ∀ name ∈ names, (Release.mk routine name).IsCall := by
    intro name hname
    rw [hnames, mem_released_by_iff] at hname
    exact h _ hname
  obtain ⟨name, hname⟩ := List.exists_mem_of_ne_nil _ hne
  have hknown : routine ∈ CppMark.routines := (hcalls name hname).1
  have hlist : '\n' ∉ (String.intercalate ", " names).toList :=
    Printable.not_newline (printable_intercalate (by decide) fun n hn => (hcalls n hn).2)
  dsimp only
  -- from here on a call is known by its routine and a printable list of names
  generalize String.intercalate ", " names = list at hlist ⊢
  constructor
  · refine ⟨routine, hknown, ?_⟩
    iterate 3 apply Text.prefix_text_append
    exact List.prefix_rfl
  · have hroutine : '\n' ∉ routine.toList := by fin_cases hknown <;> decide
    simp [hlist, hroutine]

theorem scan_release_calls {releases : List Release} (h : ∀ r ∈ releases, r.IsCall) :
    ((releaseCalls releases).flatMap fun call => cppMarks.scan call.toList) = [] := by
  rw [List.flatMap_eq_nil_iff]
  intro call hcall
  obtain ⟨⟨w, hw, hbegins⟩, hn⟩ := release_call_line h call hcall
  exact (CppMark.ignores_opening (List.mem_append_right _ hw)).scan hbegins hn

namespace Plan

variable {p : Plan} (h : p.IsSingleLine)

include h

theorem input_releases_are_calls : ∀ r ∈ p.inputReleases, r.IsCall := by
  intro r hr
  obtain ⟨param, hparam, hrelease⟩ := List.mem_filterMap.mp hr
  exact Strategy.is_call_of_release hrelease (h.printable_variable hparam)

theorem all_releases_are_calls : ∀ r ∈ p.allReleases, r.IsCall := by
  intro r hr
  rcases List.mem_append.mp hr with hr | hr
  · exact input_releases_are_calls h r hr
  · exact Strategy.is_call_of_release (Option.mem_toList.mp hr) (by decide)

/-- Nothing is found in a call on one line. -/
theorem scan_cpp_call {α : Type} {k : Scanner α} (hk : CppLine.Passes k) {receiver : String}
    (hreceiver : '\n' ∉ receiver.toList) : k.scan (p.cppCall receiver).toList = [] := by
  have harguments := h.printable_arguments.not_newline
  unfold cppCall
  apply hk.scan
  · exact ⟨"auto", by decide, by simp⟩
  · simp [hreceiver, h.functionName, harguments]

/-- The marks of a C++ driver are the declarations for the tests, in order. -/
theorem scan_cpp_driver (ht : p.target = .cpp) (code : String) (tests : List TestCase) :
    cppMarks.scan (p.cppDriver code tests).toList =
      tests.flatMap fun t => [.caseId (some t.idText), .expected (some t.outputText)] := by
  have hvars : ∀ param ∈ p.params, '\n' ∉ param.variableName.toList :=
    fun param hparam => (h.printable_variable hparam).not_newline
  have hcall := scan_cpp_call h CppMark.passes (newline_not_mem_receiver code)
  have hframe : cppMarks.scan ['\x7b'] = [] ∧ cppMarks.scan "try \x7b".toList = [] ∧
      cppMarks.scan "\x7d catch (const exception& _e) \x7b".toList = [] ∧
      cppMarks.scan "\x7d catch (...) \x7b".toList = [] ∧ cppMarks.scan "\x7d".toList = [] :=
    ⟨rfl, rfl, rfl, rfl, rfl⟩
  obtain ⟨hopen, htry, hcatch, hrest, hclose⟩ := hframe
  have hblock (t : TestCase) : cppMarks.scan (p.cppBlock t (cppReceiver code)).toList =
      [.caseId (some t.idText), .expected (some t.outputText)] := by
    rw [scan_cpp_block CppMark.passes ht (fun _ => rfl) hvars, CppMark.scan_case_id,
      CppMark.scan_expected, hcall, scan_release_calls (input_releases_are_calls h),
      scan_release_calls (all_releases_are_calls h), hopen, htry, hcatch, hrest, hclose,
      show cppMarks.scan ['\x7d'] = [] from hclose]
    rfl
  rw [scan_cpp_driver_of (fun _ => rfl), List.flatMap_congr fun t _ => hblock t]
  have hmain : cppMarks.scan "int main() \x7b".toList = [] := rfl
  have hend : cppMarks.scan "    printRecords();".toList ++ (cppMarks.scan "    return 0;".toList ++
      cppMarks.scan "\x7d".toList) = [] := rfl
  rw [hmain, hend, List.nil_append, List.append_nil]

end Plan

end CodeJudge
