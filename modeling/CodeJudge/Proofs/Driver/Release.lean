import CodeJudge.Proofs.Driver.Cpp
import CodeJudge.Proofs.Json.Arrangement
/-!
Releases in a C++ driver. Handles are put together by the routine that takes them, and each routine
is called once with each of its handles. Every branch of a block calls the routines for what the
inputs need, and only the branch in which the function returned has a result to release.
-/
namespace CodeJudge

open Text (Scanner)

/-! Groups of handles. -/

theorem nodup_erase_dups (as : List String) : as.eraseDups.Nodup := by
  induction as using List.reverseRecOn with
  | nil => exact List.nodup_nil
  | append_singleton as a ih =>
    rw [erase_dups_concat]
    split_ifs with ha
    · exact ih
    · rw [List.contains_iff_mem] at ha
      exact ih.append (List.nodup_singleton a) (List.disjoint_singleton.mpr ha)

/-- What one call releases: the variables that it gives to a routine. -/
structure ReleaseGroup where
  routine : String
  names : List String
  deriving DecidableEq, Repr

namespace ReleaseGroup

/-- The text of the call. -/
def call (g : ReleaseGroup) : String :=
  g.routine ++ "(\x7b" ++ String.intercalate ", " g.names ++ "\x7d);"

/-- The handles that the call releases. -/
def releases (g : ReleaseGroup) : List Release := g.names.map (Release.mk g.routine)

theorem mem_releases_iff {g : ReleaseGroup} {r : Release} :
    r ∈ g.releases ↔ r.routine = g.routine ∧ r.variableName ∈ g.names := by
  rw [releases, List.mem_map]
  constructor
  · rintro ⟨name, hname, rfl⟩
    exact ⟨rfl, hname⟩
  · rintro ⟨hroutine, hname⟩
    exact ⟨r.variableName, hname, by rw [← hroutine]⟩

end ReleaseGroup

/-- The groups of some handles, one for each routine. -/
def releaseGroups (releases : List Release) : List ReleaseGroup :=
  (grouped releases).map fun (routine, names) => ⟨routine, names⟩

theorem release_calls_eq (releases : List Release) :
    releaseCalls releases = (releaseGroups releases).map ReleaseGroup.call := by
  rw [releaseCalls, releaseGroups, List.map_map]
  rfl

theorem group_routines_ascend (releases : List Release) :
    ((releaseGroups releases).map (·.routine)).Pairwise (· < ·) := by
  rw [releaseGroups, List.map_map]
  exact List.pairwise_map.mpr (ascending_grouped releases)

/-- A routine has a group if there is a handle for it, with its handles as they come first. -/
theorem mem_release_groups_iff {releases : List Release} {g : ReleaseGroup} :
    g ∈ releaseGroups releases ↔
      g.names = releasedBy releases g.routine ∧ g.names ≠ [] := by
  rw [← mem_grouped_iff, releaseGroups, List.mem_map]
  constructor
  · rintro ⟨entry, hentry, rfl⟩
    exact hentry
  · intro h
    exact ⟨(g.routine, g.names), h, rfl⟩

/-- The groups hold each handle once and lose none. -/
theorem release_groups_perm (releases : List Release) :
    ((releaseGroups releases).flatMap ReleaseGroup.releases).Perm releases.dedup := by
  refine (List.perm_ext_iff_of_nodup ?_ (List.nodup_dedup releases)).mpr ?_
  · rw [List.nodup_flatMap]
    constructor
    · intro g hg
      rw [ReleaseGroup.releases, (mem_release_groups_iff.mp hg).1]
      exact (nodup_erase_dups _).map fun _ _ h => (Release.mk.inj h).2
    · -- groups of different routines have no release in common
      have hroutines : (releaseGroups releases).Pairwise fun g h => g.routine < h.routine := by
        exact List.pairwise_map.mp (group_routines_ascend releases)
      refine hroutines.imp fun hlt r hg hh => ?_
      have hsame := (ReleaseGroup.mem_releases_iff.mp hg).1.symm.trans
        (ReleaseGroup.mem_releases_iff.mp hh).1
      exact absurd hsame hlt.ne
  · intro r
    rw [List.mem_flatMap, List.mem_dedup]
    constructor
    · rintro ⟨g, hg, hr⟩
      obtain ⟨hroutine, hname⟩ := ReleaseGroup.mem_releases_iff.mp hr
      rw [(mem_release_groups_iff.mp hg).1, mem_released_by_iff, ← hroutine] at hname
      exact hname
    · intro hr
      have hname := mem_released_by_iff.mpr hr
      exact ⟨⟨r.routine, releasedBy releases r.routine⟩,
        mem_release_groups_iff.mpr ⟨rfl, List.ne_nil_of_mem hname⟩,
        ReleaseGroup.mem_releases_iff.mpr ⟨rfl, hname⟩⟩

/-- Some groups release the handles that are named for each routine, each once and in their order,
with one group for each routine that has any. -/
structure IsGrouping (groups : List ReleaseGroup) (handles : String → List String) : Prop where
  ascending : (groups.map (·.routine)).Pairwise (· < ·)
  mem_iff : ∀ g, g ∈ groups ↔ g.names = (handles g.routine).eraseDups ∧ g.names ≠ []

theorem release_groups_grouping (releases : List Release) :
    IsGrouping (releaseGroups releases) fun routine =>
      (releases.filter (·.routine == routine)).map (·.variableName) where
  ascending := group_routines_ascend releases
  mem_iff _ := mem_release_groups_iff

theorem filter_filter_map_releases {α : Type} (f : α → Option Release) (name : α → String)
    (hname : ∀ a, ∀ r ∈ f a, r.variableName = name a) (routine : String) (as : List α) :
    ((as.filterMap f).filter (·.routine == routine)).map (·.variableName) =
      (as.filter fun a => (f a).any (·.routine == routine)).map name := by
  induction as with
  | nil => rfl
  | cons a as ih =>
    cases hf : f a with
    | none => simp [hf, ih]
    | some r =>
      have hr := hname a r hf
      by_cases hroutine : r.routine = routine
      · simp [hf, hroutine, hr, ih]
      · simp [hf, hroutine, ih]

namespace Plan

/-- The variables of the inputs that a routine has to release. -/
def inputHandles (p : Plan) (routine : String) : List String :=
  (p.params.filter fun param =>
    (param.parsing.release? p.target param.variableName).any (·.routine == routine)).map
      (·.variableName)

/-- The result, if it is the routine that has to release it. -/
def resultHandle (p : Plan) (routine : String) : List String :=
  if (p.output.serialization.release? p.target "_result").any (·.routine == routine) then
    ["_result"]
  else []

/-- The variables that a routine has to release once there is a result. -/
def allHandles (p : Plan) (routine : String) : List String :=
  p.inputHandles routine ++ p.resultHandle routine

variable (p : Plan)

theorem input_groups_grouping : IsGrouping (releaseGroups p.inputReleases) p.inputHandles := by
  have h := release_groups_grouping p.inputReleases
  simp only [inputReleases, filter_filter_map_releases _ PlannedParam.variableName
    fun _ _ => Strategy.name_of_release] at h
  exact h

theorem all_groups_grouping : IsGrouping (releaseGroups p.allReleases) p.allHandles := by
  have hresult (routine : String) : (((p.output.serialization.release? p.target
      "_result").toList).filter (·.routine == routine)).map (·.variableName) =
        p.resultHandle routine := by
    rw [resultHandle]
    cases h : p.output.serialization.release? p.target "_result" with
    | none => rfl
    | some r =>
      have hr := Strategy.name_of_release h
      by_cases hroutine : r.routine = routine <;> simp [hroutine, hr]
  have h := release_groups_grouping p.allReleases
  simp only [allReleases, inputReleases, List.filter_append, List.map_append, hresult,
    filter_filter_map_releases _ PlannedParam.variableName fun _ _ => Strategy.name_of_release] at h
  exact h

end Plan

/-! Releases in the text of a block. -/

/-- The ways in which the call of a test ends: it returns, it throws a standard exception, or it
throws something else. -/
inductive CppEnding where
  | returned
  | exception
  | other
  deriving DecidableEq, Repr

/-- A line of a C++ driver that opens a branch or releases handles. -/
inductive ReleaseMark where
  | opens (ending : CppEnding)
  | releases (group : ReleaseGroup)
  deriving DecidableEq, Repr

/-- The names in front of the closing brace. -/
def readNames (cs : List Char) : List String :=
  ((cs.takeWhile (· != '\x7d')).splitOn ',').map fun name => String.ofList (Text.trimmed name)

/-- Finds the branches and the calls that release. -/
def releaseMarks : Scanner ReleaseMark :=
  (Scanner.startingWith "try \x7b" (by decide) fun _ => .opens .returned).orElse <|
  (Scanner.startingWith "\x7d catch (const exception& _e) \x7b" (by decide) fun _ =>
    .opens .exception).orElse <|
  (Scanner.startingWith "\x7d catch (...) \x7b" (by decide) fun _ => .opens .other).orElse <|
  (Scanner.startingWith "freeLinkedLists(\x7b" (by decide) fun l =>
    .releases ⟨"freeLinkedLists", readNames l⟩).orElse
  (Scanner.startingWith "freeTrees(\x7b" (by decide) fun l =>
    .releases ⟨"freeTrees", readNames l⟩)

namespace ReleaseMark

/-- What the lines that are looked for begin with. -/
def keys : List String :=
  ["try \x7b", "\x7d catch (const exception& _e) \x7b", "\x7d catch (...) \x7b",
    "freeLinkedLists(\x7b", "freeTrees(\x7b"]

theorem ignores_of_apart {w : String} (hvisible : Text.beginsVisible w.toList = true)
    (h : ∀ key ∈ keys, Scanner.Apart key.toList (Text.trimmed w.toList)) :
    releaseMarks.Ignores w := by
  simp only [keys, List.forall_mem_cons] at h
  obtain ⟨htry, hexception, hother, hlists, htrees, -⟩ := h
  exact .orElse (.starting_with hvisible htry) <|
    .orElse (.starting_with hvisible hexception) <|
    .orElse (.starting_with hvisible hother) <|
    .orElse (.starting_with hvisible hlists) (.starting_with hvisible htrees)

theorem passes : CppLine.Passes releaseMarks := by
  have hapart : ∀ w ∈ CppLine.openings, Text.beginsVisible w.toList = true ∧
      ∀ key ∈ keys, Scanner.Apart key.toList (Text.trimmed w.toList) := by decide
  exact fun w hw => ignores_of_apart (hapart w hw).1 (hapart w hw).2

theorem ignores_const : releaseMarks.Ignores "const" :=
  ignores_of_apart (by decide) (by decide)

end ReleaseMark

/-- A name that is read back from a list of names. -/
def IsHandle (name : String) : Prop :=
  name.toList ≠ [] ∧ ∀ c ∈ name.toList, VariableName.isNameChar c = true

theorem is_handle_of_plain {name : String} (h : VariableName.isPlain name.toList = true) :
    IsHandle name := by
  cases hname : name.toList with
  | nil =>
    rw [hname] at h
    cases h
  | cons c cs =>
    rw [hname, VariableName.isPlain, Bool.and_eq_true, List.all_eq_true] at h
    have hc : VariableName.isNameChar c = true := by
      simp [VariableName.isNameChar, Char.isAlphanum, h.1]
    rw [IsHandle, hname]
    exact ⟨List.cons_ne_nil c cs, List.forall_mem_cons.mpr ⟨hc, h.2⟩⟩

namespace IsHandle

variable {name : String} (h : IsHandle name)

include h

theorem not_mem {c : Char} (hc : VariableName.isNameChar c = false) : c ∉ name.toList :=
  fun hmem => absurd (h.2 c hmem) (by simp [hc])

theorem visible {c : Char} (hc : c ∈ name.toList) : Text.isBlank c = false :=
  Text.visible_of_name_char (h.2 c hc)

theorem trimmed_padded {blank : List Char} (hblank : ∀ c ∈ blank, Text.isBlank c = true) :
    Text.trimmed (blank ++ name.toList) = name.toList := by
  rw [← List.append_nil (blank ++ name.toList)]
  exact Text.trimmed_append hblank (List.forall_mem_nil _)
    (fun _ hc => h.visible (List.mem_of_mem_head? hc))
    (fun _ hc => h.visible (List.mem_of_mem_getLast? hc))

end IsHandle

section

variable {names : List String} (h : ∀ name ∈ names, IsHandle name)

include h

/-- The first name may have white space in front of it, as all others have. -/
theorem split_handles (hne : names ≠ []) {blank : List Char}
    (hblank : ∀ c ∈ blank, Text.isBlank c = true ∧ c ≠ ',') :
    ((blank ++ (String.intercalate ", " names).toList).splitOn ',').map
      (fun name => String.ofList (Text.trimmed name)) = names := by
  induction names generalizing blank with
  | nil => exact absurd rfl hne
  | cons name rest ih =>
    obtain ⟨hname, hrest⟩ := List.forall_mem_cons.mp h
    have htrimmed := hname.trimmed_padded fun c hc => (hblank c hc).1
    have hfield : ',' ∉ blank ++ name.toList := by
      rw [List.mem_append, not_or]
      exact ⟨fun hmem => (hblank _ hmem).2 rfl, hname.not_mem (by decide)⟩
    by_cases hlast : rest = []
    · rw [hlast, String.intercalate_singleton, List.splitOn_eq_singleton hfield, List.map_singleton,
        htrimmed, String.ofList_toList]
    · have hline : blank ++ (String.intercalate ", " (name :: rest)).toList =
          (blank ++ name.toList) ++ ',' :: ([' '] ++ (String.intercalate ", " rest).toList) := by
        rw [String.intercalate_cons_of_ne_nil hlast]
        simp
      rw [hline, List.splitOn_append_cons_self_of_not_mem hfield, List.map_cons, htrimmed,
        String.ofList_toList,
        ih hrest hlast (List.forall_mem_singleton.mpr ⟨Text.isBlank_space, by decide⟩)]

theorem handle_list_chars : ∀ c ∈ (String.intercalate ", " names).toList,
    VariableName.isNameChar c = true ∨ c = ',' ∨ c = ' ' :=
  forall_mem_intercalate (by simp) fun name hname c hc => .inl ((h name hname).2 c hc)

theorem read_names (hne : names ≠ []) (rest : List Char) :
    readNames ((String.intercalate ", " names).toList ++ '\x7d' :: rest) = names := by
  have hfront : ∀ c ∈ (String.intercalate ", " names).toList, (c != '\x7d') = true := by
    intro c hc
    rcases handle_list_chars h c hc with hchar | rfl | rfl
    · rw [bne_iff_ne]
      rintro rfl
      exact absurd hchar (by decide)
    · rfl
    · rfl
  rw [readNames, List.takeWhile_append_of_pos hfront, List.takeWhile_cons_of_neg (by decide),
    List.append_nil]
  have hnone : ∀ c ∈ ([] : List Char), Text.isBlank c = true ∧ c ≠ ',' := List.forall_mem_nil _
  exact split_handles h hne hnone

end

theorem find_release_call {routine : String} (h : routine ∈ CppMark.routines) (rest : List Char) :
    releaseMarks.find? 0 ((routine ++ "(\x7b").toList ++ rest) =
      some (.releases ⟨routine, readNames rest⟩) := by
  rw [releaseMarks]
  simp only [Scanner.find_or_else]
  rcases List.mem_pair.mp h with rfl | rfl
  · have hkey : ("freeLinkedLists" ++ "(\x7b").toList = "freeLinkedLists(\x7b".toList := by decide
    rw [hkey, Scanner.find_starting_with_apart (by decide),
      Scanner.find_starting_with_apart (by decide), Scanner.find_starting_with_apart (by decide),
      Scanner.find_starting_with_key]
    rfl
  · have hkey : ("freeTrees" ++ "(\x7b").toList = "freeTrees(\x7b".toList := by decide
    rw [hkey, Scanner.find_starting_with_apart (by decide),
      Scanner.find_starting_with_apart (by decide), Scanner.find_starting_with_apart (by decide),
      Scanner.find_starting_with_apart (by decide), Scanner.find_starting_with_key]
    rfl

/-- A group is read back from its call. -/
theorem scan_group_call {g : ReleaseGroup} (hroutine : g.routine ∈ CppMark.routines)
    (hnames : ∀ name ∈ g.names, IsHandle name) (hne : g.names ≠ []) :
    releaseMarks.scan g.call.toList = [.releases g] := by
  have hlist : '\n' ∉ (String.intercalate ", " g.names).toList := by
    intro hmem
    rcases handle_list_chars hnames _ hmem with h | h | h <;> revert h <;> decide
  have hcall : g.call = g.routine ++ "(\x7b" ++ (String.intercalate ", " g.names ++ "\x7d)")
      ++ ";" := by
    simp [ReleaseGroup.call, ← String.toList_inj]
  have hrest : (String.intercalate ", " g.names ++ "\x7d)").toList ++ [';'] =
      (String.intercalate ", " g.names).toList ++ '\x7d' :: [')', ';'] := by simp
  have hkey : Text.beginsVisible (g.routine ++ "(\x7b").toList = true ∧
      '\n' ∉ (g.routine ++ "(\x7b").toList := by
    rcases List.mem_pair.mp hroutine with h | h <;> rw [h] <;> decide
  rw [hcall, Scanner.scan_declaration _ hkey.1 hkey.2 (by simpa using hlist), hrest,
    find_release_call hroutine, read_names hnames hne]
  rfl

/-- A release that is read back from its call: a routine of the driver takes a name. -/
def Release.IsRead (r : Release) : Prop :=
  r.routine ∈ CppMark.routines ∧ IsHandle r.variableName

theorem scan_release_groups {releases : List Release} (h : ∀ r ∈ releases, r.IsRead) :
    ((releaseCalls releases).flatMap fun call => releaseMarks.scan call.toList) =
      (releaseGroups releases).map .releases := by
  rw [release_calls_eq, List.flatMap_map, List.map_eq_flatMap]
  refine List.flatMap_congr fun g hg => ?_
  obtain ⟨hnames, hne⟩ := mem_release_groups_iff.mp hg
  have hread : ∀ name ∈ g.names, (Release.mk g.routine name).IsRead := by
    intro name hname
    rw [hnames, mem_released_by_iff] at hname
    exact h _ hname
  obtain ⟨name, hname⟩ := List.exists_mem_of_ne_nil _ hne
  exact scan_group_call (hread name hname).1 (fun n hn => (hread n hn).2) hne

namespace Plan

variable {p : Plan} (h : ∀ param ∈ p.params, VariableName.isPlain param.variableName.toList = true)

include h

theorem input_releases_are_read : ∀ r ∈ p.inputReleases, r.IsRead := by
  intro r hr
  obtain ⟨param, hparam, hrelease⟩ := List.mem_filterMap.mp hr
  refine ⟨Strategy.routine_of_release hrelease, ?_⟩
  rw [Strategy.name_of_release hrelease]
  exact is_handle_of_plain (h param hparam)

theorem all_releases_are_read : ∀ r ∈ p.allReleases, r.IsRead := by
  intro r hr
  rcases List.mem_append.mp hr with hr | hr
  · exact input_releases_are_read h r hr
  · have hrelease := Option.mem_toList.mp hr
    refine ⟨Strategy.routine_of_release hrelease, ?_⟩
    rw [Strategy.name_of_release hrelease]
    exact ⟨by decide, List.all_eq_true.mp (by decide)⟩

theorem result_not_input_handle (routine : String) : "_result" ∉ p.inputHandles routine := by
  intro hmem
  obtain ⟨param, hparam, hname⟩ := List.mem_map.mp hmem
  have hplain := h param (List.mem_of_mem_filter hparam)
  rw [hname] at hplain
  exact absurd hplain (by decide)

theorem scan_release_block (ht : p.target = .cpp) (test : TestCase) (receiver : String) :
    releaseMarks.scan (p.cppBlock test receiver).toList =
      .opens .returned :: (releaseMarks.scan (p.cppCall receiver).toList ++
        (releaseGroups p.allReleases).map .releases) ++
      .opens .exception :: (releaseGroups p.inputReleases).map .releases ++
      .opens .other :: (releaseGroups p.inputReleases).map .releases := by
  have hvars : ∀ param ∈ p.params, '\n' ∉ param.variableName.toList :=
    fun param hparam => (VariableName.printable_of_plain (h param hparam)).not_newline
  -- the declaration of a constant is no mark, whatever its literal holds
  have hconst (key literal : String) (hkey : "const".toList <+: key.toList ∧ '\n' ∉ key.toList)
      (hliteral : '\n' ∉ literal.toList) : releaseMarks.scan (key ++ literal ++ ";").toList = [] :=
    ReleaseMark.ignores_const.scan (Text.prefix_text_append (Text.prefix_text_append hkey.1 _) _)
      (by simp [hkey.2, hliteral])
  have hid := hconst "const string _caseId = " _ (by decide)
    (Literal.Cpp.printable_string test.idText).not_newline
  have hexpected := hconst "const string _expectedJson = " _ (by decide)
    (Literal.Cpp.printable_string test.outputText).not_newline
  have hframe : releaseMarks.scan ['\x7b'] = [] ∧
      releaseMarks.scan "try \x7b".toList = [.opens .returned] ∧
      releaseMarks.scan "\x7d catch (const exception& _e) \x7b".toList = [.opens .exception] ∧
      releaseMarks.scan "\x7d catch (...) \x7b".toList = [.opens .other] ∧
      releaseMarks.scan ['\x7d'] = [] :=
    ⟨rfl, rfl, rfl, rfl, rfl⟩
  obtain ⟨hopen, htry, hexception, hother, hclose⟩ := hframe
  rw [scan_cpp_block ReleaseMark.passes ht (fun _ => rfl) hvars,
    scan_release_groups (input_releases_are_read h), scan_release_groups (all_releases_are_read h),
    hopen, hid, hexpected, htry, hexception, hother, show releaseMarks.scan "\x7d".toList = [] from
      hclose, hclose]
  simp

end Plan

/-- A block for a test releases each structure once, whichever way the call ends. The releases of
the inputs are those of the branches in which it throws, and where it returns the result is released
with the inputs of its routine, if it is a structure. The call releases nothing itself, unless the
name of the function breaks its line. Of any handles at all, those that are named twice are released
once and none is lost. -/
theorem each_ending_releases_once {problem : Problem} {tests : List TestCase} {r : Registry}
    {tolerance : Binary64} {p : Plan} (h : Plan.build .cpp problem tests r tolerance = .ok p) :
    (∀ test receiver, ∃ returned failed : List ReleaseGroup,
      releaseMarks.scan (p.cppBlock test receiver).toList =
        .opens .returned :: (releaseMarks.scan (p.cppCall receiver).toList ++
          returned.map .releases) ++
        .opens .exception :: failed.map .releases ++ .opens .other :: failed.map .releases ∧
      IsGrouping returned p.allHandles ∧ IsGrouping failed p.inputHandles) ∧
    (∀ routine, "_result" ∉ p.inputHandles routine) ∧
    ('\n' ∉ problem.functionName.toList → ∀ receiver : String, '\n' ∉ receiver.toList →
      releaseMarks.scan (p.cppCall receiver).toList = []) ∧
    ∀ releases, ∃ groups : List ReleaseGroup,
      releaseCalls releases = groups.map ReleaseGroup.call ∧
      (groups.flatMap ReleaseGroup.releases).Perm releases.dedup ∧
      IsGrouping groups fun routine =>
        (releases.filter (·.routine == routine)).map (·.variableName) := by
  have hplain := Plan.plain_variables_of_build h
  refine ⟨fun test receiver => ⟨releaseGroups p.allReleases, releaseGroups p.inputReleases, ?_,
    p.all_groups_grouping, p.input_groups_grouping⟩, Plan.result_not_input_handle hplain, ?_,
    fun releases => ⟨releaseGroups releases, release_calls_eq releases,
      release_groups_perm releases, release_groups_grouping releases⟩⟩
  · exact Plan.scan_release_block hplain (Plan.target_of_build h) test receiver
  · intro hname receiver hreceiver
    exact Plan.scan_cpp_call (Plan.is_single_line_of_build h hname) ReleaseMark.passes hreceiver

/-- Two lists and two trees, the result among them, and the lists apart from each other. -/
theorem merge_releases_once :
    let problem := ((((Problem.named "merge").withParam "left" "ListNode").withParam "root"
      "TreeNode").withParam "right" "ListNode").withReturn "TreeNode"
    let test : TestCase := ⟨.nat 1, [.array [.nat 1], .array [], .array [.nat 2]], .array [.nat 3]⟩
    ∃ (p : Plan) (returned failed : List ReleaseGroup),
      Plan.build .cpp problem [test] .standard Settings.defaultTolerance = .ok p ∧
      releaseMarks.scan (p.cppBlock test "Solution().").toList =
        .opens .returned :: returned.map .releases ++
        .opens .exception :: failed.map .releases ++ .opens .other :: failed.map .releases ∧
      ⟨"freeLinkedLists", ["left", "right"]⟩ ∈ returned ∧
      ⟨"freeTrees", ["root", "_result"]⟩ ∈ returned ∧
      ⟨"freeLinkedLists", ["left", "right"]⟩ ∈ failed ∧ ⟨"freeTrees", ["root"]⟩ ∈ failed := by
  intro problem test
  have hplannable : Plan.Plannable .cpp problem [test] .standard
      ⟨[⟨.linkedList, none, "linked_list_array", some 0, some "left", none⟩,
          ⟨.tree, none, "tree_array", some 1, some "root", none⟩,
          ⟨.linkedList, none, "linked_list_array", some 2, some "right", none⟩],
        ⟨.tree, none, "tree_array", none, none, none⟩⟩ :=
    Plan.plannable_standard (by cbv) (.inr rfl) (List.forall_mem_singleton.mpr rfl)
  obtain ⟨p, hbuild⟩ :=
    (Plan.exists_build_iff .cpp problem [test] .standard Settings.defaultTolerance).mpr
      ⟨_, hplannable⟩
  obtain ⟨hblock, -, hcall, -⟩ := each_ending_releases_once hbuild
  obtain ⟨returned, failed, hscan, hreturned, hfailed⟩ := hblock test "Solution()."
  rw [hcall (by decide) _ (by decide)] at hscan
  have hbuilt := Plan.is_built_of_resolves hbuild hplannable.resolves
  refine ⟨p, returned, failed, hbuild, hscan, ?_, ?_, ?_, ?_⟩
  · rw [hreturned.mem_iff, hbuilt.eq_of_formats]
    decide
  · rw [hreturned.mem_iff, hbuilt.eq_of_formats]
    decide
  · rw [hfailed.mem_iff, hbuilt.eq_of_formats]
    decide
  · rw [hfailed.mem_iff, hbuilt.eq_of_formats]
    decide

end CodeJudge
