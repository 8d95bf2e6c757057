import CodeJudge.Driver.Java
import CodeJudge.Proofs.Json.Visible
import CodeJudge.Proofs.Literal.Java
import CodeJudge.Proofs.Plan.Names
import CodeJudge.Proofs.Template.Render
import CodeJudge.Proofs.Text.Scan
/-!
The outline of a Java driver: its methods, what each one declares of the record that it gives, and
the calls that collect the records. No other line of the driver, whatever values it holds, looks
like one of these.
-/
namespace CodeJudge

open Json (Printable)
open Text (Scanner)

/-- A line of the outline of a Java driver. -/
inductive JavaMark where
  /-- A method of the class begins. -/
  | opens (header : String)
  /-- The method of the class ends. -/
  | closes
  /-- The identifier is declared, with the units that its literal is read as. -/
  | caseId (units : Option (List Nat))
  /-- The expected output is declared. -/
  | expected (units : Option (List Nat))
  /-- The record of a call is collected. -/
  | adds (call : String)
  deriving DecidableEq, Repr

/-- Finds the first and the last lines of the methods of a class. -/
def methodEnds : Scanner JavaMark where
  find? := fun d l =>
    if d = 4 then
      if l = ['\x7d'] then some .closes
      else if l.getLast? = some '\x7b' then some (.opens (String.ofList l))
      else none
    else none
  find_nil := by
    intro d
    split_ifs <;> simp_all

/-- Finds what a method declares of its record, and the calls that collect the records. -/
def recordMarks : Scanner JavaMark :=
  (Scanner.startingWith "String _caseId = " (by decide) fun l =>
    .caseId (Literal.Java.initialUnits? l)).orElse
  ((Scanner.startingWith "String _expectedJson = " (by decide) fun l =>
    .expected (Literal.Java.initialUnits? l)).orElse
  (Scanner.startingWith "records.add(" (by decide) fun l => .adds (String.ofList l)))

/-- Finds the lines of the outline. -/
def javaMarks : Scanner JavaMark := recordMarks.orElse methodEnds

namespace JavaMark

theorem deeper (width : Nat) :
    javaMarks.deeper width = recordMarks.orElse (methodEnds.deeper width) := rfl

theorem method_ends_inside {width : Nat} (h : 4 < width) (d : Nat) (l : List Char) :
    (methodEnds.deeper width).find? d l = none := by
  have hd : ¬ d + width = 4 := by omega
  exact if_neg hd

/-- The text cannot be the front of a line about a record. -/
structure IsApart (w : String) : Prop where
  visible : Text.beginsVisible w.toList = true
  caseId : Scanner.Apart "String _caseId = ".toList (Text.trimmed w.toList)
  expected : Scanner.Apart "String _expectedJson = ".toList (Text.trimmed w.toList)
  adds : Scanner.Apart "records.add(".toList (Text.trimmed w.toList)

theorem IsApart.record_marks_ignore {w : String} (h : IsApart w) : recordMarks.Ignores w :=
  Scanner.Ignores.orElse (.starting_with h.visible h.caseId)
    (.orElse (.starting_with h.visible h.expected) (.starting_with h.visible h.adds))

/-- Inside a method nothing is found on lines that begin with such a text. -/
theorem IsApart.scan {w : String} (h : IsApart w) {width : Nat} (hwidth : 4 < width)
    {cs : List Char} (hbegins : w.toList <+: cs) (hn : '\n' ∉ cs) :
    (javaMarks.deeper width).scan cs = [] := by
  have hends : (methodEnds.deeper width).Ignores w :=
    ⟨h.visible, fun d rest => method_ends_inside hwidth d _⟩
  rw [deeper]
  exact (h.record_marks_ignore.orElse hends).scan hbegins hn

/-- What the other lines of a method begin with, where their values do not matter. -/
def openings : List String :=
  ["int", "long", "double", "boolean", "char", "String[", "ListNode", "TreeNode", "List<",
    "Object", "Solution", "var", "return", "_e.", "try", "\x7d"]

theorem is_apart_opening {w : String} (h : w ∈ openings) : IsApart w := by
  have hall : ∀ w ∈ openings, Text.beginsVisible w.toList = true ∧
      Scanner.Apart "String _caseId = ".toList (Text.trimmed w.toList) ∧
        Scanner.Apart "String _expectedJson = ".toList (Text.trimmed w.toList) ∧
          Scanner.Apart "records.add(".toList (Text.trimmed w.toList) := by
    decide
  obtain ⟨hvisible, hid, hexpected, hadds⟩ := hall w h
  exact ⟨hvisible, hid, hexpected, hadds⟩

/-- A text variable is not declared like the data of a record, for its name begins with a
letter. -/
theorem is_apart_text_variable {c : Char} (hc : c.isAlpha = true) :
    IsApart ("String " ++ String.singleton c) := by
  have hline : ("String " ++ String.singleton c).toList =
      ['S', 't', 'r', 'i', 'n', 'g', ' ', c] := by simp
  have hvisible : Text.beginsVisible ['S', 't', 'r', 'i', 'n', 'g', ' ', c] = true := by
    rfl
  have hends : Text.endsVisible ['S', 't', 'r', 'i', 'n', 'g', ' ', c] = true := by
    simp [Text.endsVisible, Text.visible_of_letter hc]
  have hlow : c ≠ '_' := by
    rintro rfl
    exact absurd hc (by decide)
  constructor
  · rw [hline, hvisible]
  all_goals
    rw [hline, Text.trimmed_whole hvisible hends]
    simp [Scanner.Apart, hlow, hlow.symm]

/-- The line begins like one that is no mark. -/
def IsOther (cs : List Char) : Prop := ∃ w, IsApart w ∧ w.toList <+: cs

theorem IsOther.of_opening {w : String} (h : w ∈ openings) {cs : List Char}
    (hbegins : w.toList <+: cs) : IsOther cs := ⟨w, is_apart_opening h, hbegins⟩

theorem scan_other {cs : List Char} (h : IsOther cs) (hn : '\n' ∉ cs) {width : Nat}
    (hwidth : 4 < width) : (javaMarks.deeper width).scan cs = [] := by
  obtain ⟨w, hw, hbegins⟩ := h
  exact hw.scan hwidth hbegins hn

/-- A line that holds no values. -/
theorem scan_literal (w : String) (h : w ∈ openings) {line : String}
    (hline : w.toList <+: line.toList ∧ '\n' ∉ line.toList) {width : Nat} (hwidth : 4 < width) :
    (javaMarks.deeper width).scan line.toList = [] :=
  scan_other (.of_opening h hline.1) hline.2 hwidth

/-! The lines of the outline. -/

theorem scan_case_id (s : String) (width : Nat) :
    (javaMarks.deeper width).scan ("String _caseId = " ++ Literal.Java.string s ++ ";").toList =
      [.caseId (some (Literal.Java.textUnits s))] := by
  have hliteral := (Literal.Java.printable_string s).not_newline
  rw [Scanner.scan_declaration _ (by decide) (by decide) hliteral, deeper, recordMarks,
    Scanner.find_or_else, Scanner.find_or_else, Scanner.find_starting_with_key,
    Literal.Java.initial_units_string]
  rfl

theorem scan_expected (s : String) (width : Nat) :
    (javaMarks.deeper width).scan
      ("String _expectedJson = " ++ Literal.Java.string s ++ ";").toList =
        [.expected (some (Literal.Java.textUnits s))] := by
  have hliteral := (Literal.Java.printable_string s).not_newline
  have hapart : Scanner.Apart "String _caseId = ".toList "String _expectedJson = ".toList := by
    decide
  rw [Scanner.scan_declaration _ (by decide) (by decide) hliteral, deeper, recordMarks,
    Scanner.find_or_else, Scanner.find_or_else, Scanner.find_starting_with_apart hapart,
    Scanner.find_or_else, Scanner.find_starting_with_key, Literal.Java.initial_units_string]
  rfl

theorem find_method_ends (l : List Char) :
    methodEnds.find? 4 l = if l = ['\x7d'] then some .closes
      else if l.getLast? = some '\x7b' then some (.opens (String.ofList l)) else none := rfl

theorem is_apart_private : IsApart "private" := by
  constructor <;> decide

theorem newline_not_mem_method_name (index : Nat) :
    '\n' ∉ (Plan.javaMethodName index).toList := by
  have hdigits : Printable (Nat.toDigits 10 index) := Binary64.printable_decimal_digits index
  simp [Plan.javaMethodName, hdigits.not_newline]

theorem scan_call (index width : Nat) :
    (javaMarks.deeper width).scan ("records.add(" ++ Plan.javaMethodName index ++ "());").toList =
      [.adds (Plan.javaMethodName index ++ "());")] := by
  have hname := newline_not_mem_method_name index
  generalize Plan.javaMethodName index = name at hname ⊢
  have hline : ("records.add(" ++ name ++ "());").toList =
      "records.add(".toList ++ (name ++ "());").toList := by
    simp
  have hid : Scanner.Apart "String _caseId = ".toList "records.add(".toList := by decide
  have hexpected : Scanner.Apart "String _expectedJson = ".toList "records.add(".toList := by
    decide
  rw [Scanner.scan_whole]
  · rw [hline, deeper, recordMarks, Scanner.find_or_else, Scanner.find_or_else,
      Scanner.find_starting_with_apart hid, Scanner.find_or_else,
      Scanner.find_starting_with_apart hexpected, Scanner.find_starting_with_key,
      String.ofList_toList]
    rfl
  · simp [hname]
  · rw [hline]
    rfl
  · rw [String.toList_append, Text.endsVisible, List.getLast?_append_of_ne_nil _ (by decide)]
    decide

theorem scan_header (index : Nat) :
    (javaMarks.deeper 4).scan
      ("private static String " ++ Plan.javaMethodName index ++ "() \x7b").toList =
        [.opens ("private static String " ++ Plan.javaMethodName index ++ "() \x7b")] := by
  have hname := newline_not_mem_method_name index
  generalize Plan.javaMethodName index = name at hname ⊢
  have hline : ("private static String " ++ name ++ "() \x7b").toList =
      Text.trimmed "private".toList ++ (" static String " ++ name ++ "() \x7b").toList := by
    rw [Text.trimmed_whole (by rfl) (by rfl)]
    simp
  -- a header is told by its depth and its brace, and by no word in front
  have hnone :
      recordMarks.find? 4 ("private static String " ++ name ++ "() \x7b").toList = none := by
    rw [hline]
    exact is_apart_private.record_marks_ignore.skip 4 _
  have hlast : ("private static String " ++ name ++ "() \x7b").toList.getLast? = some '\x7b' := by
    rw [String.toList_append, List.getLast?_append_of_ne_nil _ (by decide)]
    decide
  rw [Scanner.scan_whole]
  · have hbrace : ("private static String " ++ name ++ "() \x7b").toList ≠ ['\x7d'] := by
      intro heq
      rw [heq] at hlast
      cases hlast
    have hends : methodEnds.find? 4 ("private static String " ++ name ++ "() \x7b").toList =
        some (.opens ("private static String " ++ name ++ "() \x7b")) := by
      rw [find_method_ends, if_neg hbrace, if_pos hlast, String.ofList_toList]
    rw [Scanner.find_deeper, javaMarks, Scanner.find_or_else, hnone, Option.none_or, hends]
    rfl
  · refine Text.newline_not_mem_append (Text.newline_not_mem_append ?_ hname) ?_ <;> decide
  · rw [hline]
    rfl
  · rw [Text.endsVisible, hlast]
    decide

end JavaMark

theorem Scalar.java_type_mem_openings {s : Scalar} (h : s ≠ .string) :
    s.javaType ∈ JavaMark.openings := by
  cases s with
  | string => exact absurd rfl h
  | int | long | double | bool | char => decide

namespace BaseType

variable (b : BaseType) (s : Scalar)

theorem is_other_array_type (depth : Nat) {cs : List Char}
    (h : (Literal.Java.arrayType s (depth + 1)).toList <+: cs) : JavaMark.IsOther cs := by
  by_cases hs : s = .string
  · have hbegins : "String[".toList <+: (Literal.Java.arrayType s (depth + 1)).toList := by
      clear h
      induction depth with
      | zero =>
        rw [hs]
        decide
      | succ depth ih => exact Text.prefix_text_append ih _
    exact .of_opening (by decide) (hbegins.trans h)
  · have hbegins : s.javaType.toList <+: (Literal.Java.arrayType s (depth + 1)).toList := by
      clear h
      induction depth with
      | zero => exact Text.prefix_text_append List.prefix_rfl _
      | succ depth ih => exact Text.prefix_text_append ih _
    exact .of_opening (Scalar.java_type_mem_openings hs) (hbegins.trans h)

theorem is_other_declaration {name : String} (hname : VariableName.isPlain name.toList = true)
    {cs : List Char} (h : (b.nativeType s .java ++ " " ++ name).toList <+: cs) :
    JavaMark.IsOther cs := by
  have htype : (b.nativeType s .java).toList <+: cs := by
    refine List.IsPrefix.trans ?_ h
    iterate 2 apply Text.prefix_text_append
    exact List.prefix_rfl
  cases b with
  | primitive =>
    by_cases hs : s = .string
    · subst hs
      -- the type alone begins the declarations of a record, too
      obtain ⟨c, cs', hc⟩ : ∃ c cs', name.toList = c :: cs' := by
        cases hcs : name.toList with
        | nil => simp [hcs, VariableName.isPlain] at hname
        | cons c cs' => exact ⟨c, cs', rfl⟩
      rw [hc, VariableName.isPlain, Bool.and_eq_true] at hname
      refine ⟨_, JavaMark.is_apart_text_variable hname.1, List.IsPrefix.trans ?_ h⟩
      simp [nativeType, Scalar.javaType, hc]
    · exact .of_opening (Scalar.java_type_mem_openings hs) htype
  | array => exact is_other_array_type s 0 htype
  | matrix => exact is_other_array_type s 1 htype
  | linkedList => exact .of_opening (w := "ListNode") (by decide) htype
  | tree => exact .of_opening (w := "TreeNode") (by decide) htype
  | graph =>
    have hlist : "List<".toList <+: "List<List<Integer>>".toList := by decide
    exact .of_opening (by decide) (hlist.trans htype)

theorem scan_parse_fragment_java (site : ParseSite)
    (h : VariableName.isPlain site.variableName.toList = true) {width : Nat} (hwidth : 4 < width) :
    (javaMarks.deeper width).scan (b.parseFragment site .java).toList = [] := by
  have htype := (b.printable_native_type_java site.scalar).not_newline
  have hflat := b.printable_java_flat site.scalar (site.value.getD .null)
  have hbuild := (b.printable_java_build hflat).not_newline
  have hname := (VariableName.printable_of_plain h).not_newline
  apply JavaMark.scan_other _ _ hwidth
  · apply is_other_declaration b site.scalar h
    simp only [parseFragment]
    iterate 3 apply Text.prefix_text_append
    exact List.prefix_rfl
  · simp [parseFragment, htype, hbuild, hname]

theorem to_list_two_calls (a b c d e f : String) :
    (a ++ b ++ c ++ d ++ ");\n" ++ a ++ e ++ c ++ f ++ ");").toList =
      (a ++ b ++ c ++ d ++ ");").toList ++ '\n' :: (a ++ e ++ c ++ f ++ ");").toList := by
  simp

theorem scan_object_declaration {name value : String} (hname : '\n' ∉ name.toList)
    (hvalue : '\n' ∉ value.toList) {width : Nat} (hwidth : 4 < width) :
    (javaMarks.deeper width).scan
      ("Object " ++ name ++ " = Harness.canonical(" ++ value ++ ");").toList = [] := by
  apply JavaMark.scan_other _ _ hwidth
  · refine .of_opening (w := "Object") (by decide) ?_
    iterate 4 apply Text.prefix_text_append
    decide
  · simp [hname, hvalue]

theorem scan_serialize_fragment_java (site : SerializeSite) (hresult : '\n' ∉ site.result.toList)
    (hactual : '\n' ∉ site.actual.toList) (hexpected : '\n' ∉ site.expected.toList) {width : Nat}
    (hwidth : 4 < width) :
    (javaMarks.deeper width).scan (b.serializeFragment site .java).toList = [] := by
  have hflat := (b.printable_java_flat site.scalar (site.value.getD .null)).not_newline
  have hflatten : '\n' ∉ (b.javaFlatten site.result).toList := by
    cases b with
    | linkedList | tree =>
      refine Text.newline_not_mem_append (Text.newline_not_mem_append ?_ hresult) ?_ <;> decide
    | primitive | array | matrix | graph => exact hresult
  have hlines : b.serializeFragment site .java = "Object " ++ site.actual
      ++ " = Harness.canonical(" ++ b.javaFlatten site.result ++ ");\n" ++ "Object "
      ++ site.expected ++ " = Harness.canonical("
      ++ b.javaFlat site.scalar (site.value.getD .null) ++ ");" := rfl
  rw [hlines, to_list_two_calls, Scanner.scan_append_newline,
    scan_object_declaration hactual hflatten hwidth, scan_object_declaration hexpected hflat hwidth]
  rfl

end BaseType

namespace Plan

variable {p : Plan}

section

variable (h : p.IsSingleLine) (ht : p.target = .java)

include h ht

theorem scan_parse_fragments_java (test : Option TestCase) {width : Nat} (hwidth : 4 < width) :
    ∀ s ∈ p.parseFragments test, (javaMarks.deeper width).scan s.toList = [] := by
  intro s hs
  obtain ⟨⟨index, param⟩, hparam, rfl⟩ := List.mem_map.mp hs
  have hname := h.params param (mem_numbered_from hparam)
  rw [ht]
  exact BaseType.scan_parse_fragment_java _ _ hname hwidth

theorem scan_java_attempt (test : TestCase) {width : Nat} (hwidth : 4 < width) :
    ∀ s ∈ p.javaAttempt test, (javaMarks.deeper width).scan s.toList = [] := by
  have harguments := h.printable_arguments.not_newline
  have hcall : (javaMarks.deeper width).scan ("var _result = _solution." ++ p.functionName ++ "("
      ++ p.argumentList ++ ");").toList = [] := by
    apply JavaMark.scan_other _ _ hwidth
    · refine .of_opening (w := "var") (by decide) ?_
      iterate 4 apply Text.prefix_text_append
      decide
    · simp [h.functionName, harguments]
  have hresult : (javaMarks.deeper width).scan
      (p.output.fragment "_" (some test.output) p.target).toList = [] := by
    rw [ht]
    exact BaseType.scan_serialize_fragment_java _ _ (by simp) (by simp) (by simp) hwidth
  intro s hs
  simp only [javaAttempt, List.mem_append, List.mem_cons, List.not_mem_nil, or_false] at hs
  rcases hs with hs | rfl | rfl | rfl | rfl | rfl | rfl
  · exact scan_parse_fragments_java h ht (some test) hwidth s hs
  · exact JavaMark.scan_literal "Solution" (by decide) (by decide) hwidth
  · exact hcall
  · exact JavaMark.scan_literal "double" (by decide) (by decide) hwidth
  · exact hresult
  · exact JavaMark.scan_literal "boolean" (by decide) (by decide) hwidth
  · exact JavaMark.scan_literal "return" (by decide) (by decide) hwidth

omit h ht in
theorem scan_java_failure {width : Nat} (hwidth : 4 < width) :
    ∀ s ∈ javaFailure, (javaMarks.deeper width).scan s.toList = [] := by
  intro s hs
  simp only [javaFailure, List.mem_cons, List.not_mem_nil, or_false] at hs
  rcases hs with rfl | rfl | rfl
  · exact JavaMark.scan_literal "double" (by decide) (by decide) hwidth
  · exact JavaMark.scan_literal "_e." (by decide) (by decide) hwidth
  · exact JavaMark.scan_literal "return" (by decide) (by decide) hwidth

theorem scan_java_case (test : TestCase) :
    (javaMarks.deeper 8).scan (Text.joinLines (p.javaCase test)).toList =
      [.caseId (some (Literal.Java.textUnits test.idText)),
        .expected (some (Literal.Java.textUnits test.outputText))] := by
  -- a branch stands four deeper than the method, so no line in it can end the method
  have hbranch : ∀ ls : List String, (∀ l ∈ ls, (javaMarks.deeper 12).scan l.toList = []) →
      (javaMarks.deeper 8).scan (Text.indent (Text.joinLines ls) 4).toList = [] := by
    intro ls hls
    rw [Scanner.scan_indent, Scanner.deeper_deeper, Scanner.scan_join_lines,
      List.flatMap_eq_nil_iff.mpr hls]
  have hattempt := hbranch _ (scan_java_attempt h ht test (by decide))
  have hfailure := hbranch _ (scan_java_failure (by decide))
  have hrest : ∀ s ∈ ["long _start = System.nanoTime();", "try \x7b",
      Text.indent (Text.joinLines (p.javaAttempt test)) 4, "\x7d catch (Throwable _e) \x7b",
      Text.indent (Text.joinLines javaFailure) 4, "\x7d"],
        (javaMarks.deeper 8).scan s.toList = [] := by
    simp only [List.forall_mem_cons]
    refine ⟨?_, ?_, hattempt, ?_, hfailure, ?_, List.forall_mem_nil _⟩
    · exact JavaMark.scan_literal "long" (by decide) (by decide) (by decide)
    · exact JavaMark.scan_literal "try" (by decide) (by decide) (by decide)
    · exact JavaMark.scan_literal "\x7d" (by decide) (by decide) (by decide)
    · exact JavaMark.scan_literal "\x7d" (by decide) (by decide) (by decide)
  rw [Scanner.scan_join_lines, javaCase, List.flatMap_cons, List.flatMap_cons,
    JavaMark.scan_case_id, JavaMark.scan_expected, List.flatMap_eq_nil_iff.mpr hrest]
  rfl

omit h ht in
theorem to_list_method (lead name body : String) :
    (lead ++ name ++ "() \x7b\n" ++ body ++ "\n\x7d").toList =
      (lead ++ name ++ "() \x7b").toList ++ '\n' :: (body.toList ++ '\n' :: ['\x7d']) := by
  simp

/-- The outline of the method for a test: what it declares stands inside. -/
theorem scan_java_method (index : Nat) (test : TestCase) :
    (javaMarks.deeper 4).scan (p.javaMethod index test).toList =
      [.opens ("private static String " ++ javaMethodName index ++ "() \x7b"),
        .caseId (some (Literal.Java.textUnits test.idText)),
        .expected (some (Literal.Java.textUnits test.outputText)), .closes] := by
  have hcase := scan_java_case h ht test
  have hmethod : (p.javaMethod index test).toList =
      ("private static String " ++ javaMethodName index ++ "() \x7b").toList ++
        '\n' :: ((Text.indent (Text.joinLines (p.javaCase test)) 4).toList ++
          '\n' :: ['\x7d']) := by
    exact to_list_method _ _ _
  have hclose : (javaMarks.deeper 4).scan ['\x7d'] = [.closes] := rfl
  rw [hmethod, Scanner.scan_append_newline, Scanner.scan_append_newline, JavaMark.scan_header,
    Scanner.scan_indent, Scanner.deeper_deeper, hcase, hclose]
  rfl

end

/-- The text of the methods in a driver. -/
def javaMethods (p : Plan) (tests : List TestCase) : String :=
  Text.indent (String.intercalate "\n\n"
    ((numberedFrom 0 tests).map fun (index, test) => p.javaMethod index test)) 4

/-- The text of the calls in a driver. -/
def javaCalls (tests : List TestCase) : String :=
  Text.indent (Text.joinLines ((numberedFrom 0 tests).map fun (index, _) =>
    "records.add(" ++ javaMethodName index ++ "());")) 8

theorem fill_java_driver {data : Json.Value} {methods calls : String}
    (hmethods : data.get? "cases" = some (.string methods))
    (hcalls : data.get? "calls" = some (.string calls)) :
    Template.Java.driver.fill data = Template.endedLines
      ["public class Main \x7b", methods, "", "    public static void main(String[] args) \x7b",
        "        List<String> records = new ArrayList<>();", calls,
        "        System.out.println(\"[\" + String.join(\",\", records) + \"]\");",
        "    \x7d", "\x7d"] := by
  have hclass := Template.render_all_lines_append
    (Template.render_all_rows data data ["public class Main \x7b"])
    (Template.render_row_hole hmethods)
  have hmain := Template.render_all_lines_append hclass
    (Template.render_all_rows data data ["", "    public static void main(String[] args) \x7b",
      "        List<String> records = new ArrayList<>();"])
  have hcollected := Template.render_all_lines_append hmain (Template.render_row_hole hcalls)
  have hall := Template.render_all_lines_append hcollected (Template.render_all_rows data data
    ["        System.out.println(\"[\" + String.join(\",\", records) + \"]\");",
      "    \x7d", "\x7d"])
  rw [Template.fill, Template.render, Template.Java.driver, hall]
  rfl

theorem java_driver_text (p : Plan) (tests : List TestCase) :
    p.javaDriver tests = Template.endedLines
      ["public class Main \x7b", p.javaMethods tests, "",
        "    public static void main(String[] args) \x7b",
        "        List<String> records = new ArrayList<>();", javaCalls tests,
        "        System.out.println(\"[\" + String.join(\",\", records) + \"]\");",
        "    \x7d", "\x7d"] := by
  rw [javaDriver]
  exact fill_java_driver rfl rfl

theorem scan_java_methods (h : p.IsSingleLine) (ht : p.target = .java) (tests : List TestCase) :
    javaMarks.scan (p.javaMethods tests).toList =
      (numberedFrom 0 tests).flatMap fun (index, test) =>
        [.opens ("private static String " ++ javaMethodName index ++ "() \x7b"),
          .caseId (some (Literal.Java.textUnits test.idText)),
          .expected (some (Literal.Java.textUnits test.outputText)), .closes] := by
  rw [javaMethods, Scanner.scan_indent, Scanner.scan_join_blocks, List.flatMap_map]
  exact List.flatMap_congr fun ⟨index, test⟩ _ => scan_java_method h ht index test

theorem scan_java_calls (tests : List TestCase) :
    javaMarks.scan (javaCalls tests).toList =
      (numberedFrom 0 tests).map fun (index, _) => .adds (javaMethodName index ++ "());") := by
  rw [javaCalls, Scanner.scan_indent, Scanner.scan_join_lines, List.flatMap_map]
  simp only [JavaMark.scan_call]
  exact List.map_eq_flatMap.symm

/-- The outline of a Java driver: a method for each test, in order, and in the main method the
calls that collect their records, in order. -/
theorem scan_java_driver (h : p.IsSingleLine) (ht : p.target = .java) (tests : List TestCase) :
    javaMarks.scan (p.javaDriver tests).toList =
      ((numberedFrom 0 tests).flatMap fun (index, test) =>
        [.opens ("private static String " ++ javaMethodName index ++ "() \x7b"),
          .caseId (some (Literal.Java.textUnits test.idText)),
          .expected (some (Literal.Java.textUnits test.outputText)), .closes]) ++
        (.opens "public static void main(String[] args) \x7b" ::
          (numberedFrom 0 tests).map fun (index, _) =>
            .adds (javaMethodName index ++ "());")) ++ [.closes] := by
  have hclass : javaMarks.scan "public class Main \x7b".toList = [] := rfl
  have hmain : javaMarks.scan "    public static void main(String[] args) \x7b".toList =
      [.opens "public static void main(String[] args) \x7b"] := rfl
  have hrecords : javaMarks.scan "        List<String> records = new ArrayList<>();".toList = [] :=
    rfl
  have hprint : javaMarks.scan
      "        System.out.println(\"[\" + String.join(\",\", records) + \"]\");".toList = [] := rfl
  have hclose : javaMarks.scan "    \x7d".toList = [.closes] := rfl
  have hblank : javaMarks.scan "".toList = [] := rfl
  have hend : javaMarks.scan "\x7d".toList = [] := rfl
  rw [java_driver_text, Template.endedLines, Scanner.scan_join_ended]
  simp only [List.flatMap_cons, List.flatMap_nil, scan_java_methods h ht, scan_java_calls, hclass,
    hblank, hmain, hrecords, hprint, hclose, hend, List.nil_append, List.append_nil,
    List.append_assoc, List.cons_append]

end Plan

end CodeJudge
