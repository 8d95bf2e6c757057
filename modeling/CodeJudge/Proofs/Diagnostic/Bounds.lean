import CodeJudge.Proofs.Diagnostic.Placeholder
import CodeJudge.Proofs.Text.Number
/-!
Reports of an index outside an array. Java and C++ programs report the index and the size in texts
of their own. Whatever the numbers are, no earlier rule is meant for such a report, and the searches
for the two numbers pass over everything else that it says.
-/
namespace CodeJudge

open Text Pattern

namespace Crash

/-! The reports. -/

/-- What a Java program reports for an index outside an array. -/
def javaReport (i : Int) (n : Nat) : String :=
  "java.lang.ArrayIndexOutOfBoundsException: Index " ++ toString i ++
    " out of bounds for length " ++ toString n

/-- What a C++ program reports for an index outside a vector. -/
def cppReport (k n : Nat) : String :=
  "vector::_M_range_check: __n (which is " ++ toString k ++ ") >= this->size() (which is " ++
    toString n ++ ")"

theorem to_list_java_report (i : Int) (n : Nat) : (javaReport i n).toList =
    "java.lang.ArrayIndexOutOfBoundsException: Index ".toList ++ (Json.writeInt i ++
      (" out of bounds for length ".toList ++ Binary64.decimalDigits n)) := by
  unfold javaReport
  rw [← to_list_to_string_int, ← to_list_to_string_nat, String.toList_append,
    String.toList_append, String.toList_append, List.append_assoc, List.append_assoc]

theorem to_list_cpp_report (k n : Nat) : (cppReport k n).toList =
    "vector::_M_range_check: __n (which is ".toList ++ (Binary64.decimalDigits k ++
      (") >= this->size() (which is ".toList ++ (Binary64.decimalDigits n ++ ")".toList))) := by
  unfold cppReport
  rw [← to_list_to_string_nat, ← to_list_to_string_nat, String.toList_append,
    String.toList_append, String.toList_append, String.toList_append, List.append_assoc,
    List.append_assoc, List.append_assoc]

/-! The searches for the two numbers. -/

/-- The index behind its name. -/
def indexWord : Pattern :=
  .all [.anyCase "index", .run colonOrBlank,
    .group 1 (.both (.optional (.text "-")) (.run .digit))]

/-- The index in a range check. -/
def rangeIndex : Pattern := .all [.text "__n (which is ", .group 1 (.run .digit), .text ")"]

/-- The size behind one of its names. -/
def sizeWord : Pattern :=
  .all [.oneOf [.anyCase "size", .anyCase "length"], .run colonOrBlank, .group 1 (.run .digit)]

/-- The size in a range check. -/
def rangeSize : Pattern := .all [.text "size() (which is ", .group 1 (.run .digit), .text ")"]

/-- A blank stands between a name and a number. -/
theorem takes_blank {w : List Char} (hw : IsNumber w) (cs : List Char) :
    (Pattern.run colonOrBlank).Takes " ".toList [] (w ++ cs) :=
  Takes.run (by decide) (List.forall_mem_singleton.mpr (by decide))
    (hw.head_any (by decide) cs)

/-- The first `Index` of a Java report is a part of a name. -/
theorem capture_java_index (i : Int) (n : Nat) :
    indexWord.capture? (javaReport i n) = some (toString i) := by
  have hsplit : "java.lang.ArrayIndexOutOfBoundsException: Index ".toList =
      "java.lang.ArrayIndexOutOfBoundsException: ".toList ++ ("Index".toList ++ " ".toList) := by
    decide
  have hfront : indexWord.SkipsOver "java.lang.ArrayIndexOutOfBoundsException: ".toList :=
    SkipsOver.of_ends (by decide)
  have hstop : (" out of bounds for length ".toList ++ Binary64.decimalDigits n).head?.any
      CharSet.digit.has = false := head_any_text (by decide) (by decide) _
  have htakes : indexWord.Takes ("Index".toList ++ (" ".toList ++ Json.writeInt i))
      [(1, Json.writeInt i)] (" out of bounds for length ".toList ++ Binary64.decimalDigits n) :=
    (Takes.any_case (by decide) _).all_cons
      ((takes_blank (is_number_write_int i) _).all_cons
        ((takes_integer i hstop).group 1).all_singleton)
  rw [to_string_int]
  refine capture_eq ?_ hfront htakes rfl
  rw [to_list_java_report, hsplit]
  simp only [List.append_assoc]

/-- Nothing in front of `length` in a Java report is a name of a size. -/
theorem capture_java_size (i : Int) (n : Nat) :
    sizeWord.capture? (javaReport i n) = some (toString n) := by
  have hsplit : " out of bounds for length ".toList =
      " out of bounds for ".toList ++ ("length".toList ++ " ".toList) := by decide
  have hfront : sizeWord.SkipsOver ("java.lang.ArrayIndexOutOfBoundsException: Index ".toList ++
      (Json.writeInt i ++ " out of bounds for ".toList)) :=
    (is_number_write_int i).skips_over_between (by decide) (SkipsOver.of_ends (by decide))
      (SkipsOver.of_ends (by decide))
  -- the first of the two names does not fit, so the second one is tried
  have hname (cs : List Char) : (Pattern.oneOf [.anyCase "size", .anyCase "length"]).Takes
      "length".toList [] cs :=
    Takes.either_right (fun before groups => match_eq_none (by decide) before cs groups)
      (Takes.any_case (by decide) cs)
  have htakes : sizeWord.Takes ("length".toList ++ (" ".toList ++ Binary64.decimalDigits n))
      [(1, Binary64.decimalDigits n)] [] :=
    (hname _).all_cons ((takes_blank (is_number_decimal_digits n) _).all_cons
      ((takes_digits n rfl).group 1).all_singleton)
  refine capture_eq ?_ hfront htakes rfl
  rw [to_list_java_report, hsplit]
  simp only [List.append_assoc, List.append_nil]

/-- A C++ report is passed over where no match starts in one of its parts. -/
theorem skips_over_cpp_report {p : Pattern} (k n : Nat)
    (hnumber : numerals.all (fun d => !p.mayStartWith [d]) = true)
    (hfront : p.SkipsOver "vector::_M_range_check: __n (which is ".toList)
    (hmiddle : p.SkipsOver ") >= this->size() (which is ".toList)
    (hback : p.SkipsOver ")".toList) : p.SkipsOver (cppReport k n).toList := by
  rw [to_list_cpp_report]
  exact (is_number_decimal_digits k).skips_over_between hnumber hfront
    ((is_number_decimal_digits n).skips_over_between hnumber hmiddle hback)

/-- A C++ report does not name the index. -/
theorem capture_cpp_index_word (k n : Nat) : indexWord.capture? (cppReport k n) = none := by
  refine capture_eq_none (skips_over_cpp_report k n (by decide) ?_ ?_ ?_) fun _ => rfl
  all_goals exact SkipsOver.of_ends (by decide)

/-- A C++ report has the name of a size, but with brackets behind it. -/
theorem capture_cpp_size_word (k n : Nat) : sizeWord.capture? (cppReport k n) = none := by
  refine capture_eq_none (skips_over_cpp_report k n (by decide) ?_ ?_ ?_) fun _ => rfl
  all_goals exact SkipsOver.of_ends (by decide)

/-- A number is taken between a text and a bracket. -/
theorem takes_range (t : String) (n : Nat) (cs : List Char) :
    (Pattern.all [.text t, .group 1 (.run .digit), .text ")"]).Takes
      (t.toList ++ (Binary64.decimalDigits n ++ ")".toList))
      [(1, Binary64.decimalDigits n)] cs := by
  have hstop : (")".toList ++ cs).head?.any CharSet.digit.has = false :=
    head_any_text (by decide) (by decide) _
  exact (Takes.text t _).all_cons
    (((takes_digits n hstop).group 1).all_cons (Takes.text ")" cs).all_singleton)

theorem capture_cpp_index (k n : Nat) :
    rangeIndex.capture? (cppReport k n) = some (toString k) := by
  have hsplit : "vector::_M_range_check: __n (which is ".toList =
      "vector::_M_range_check: ".toList ++ "__n (which is ".toList := by decide
  have hmiddle : ") >= this->size() (which is ".toList =
      ")".toList ++ " >= this->size() (which is ".toList := by decide
  have hfront : rangeIndex.SkipsOver "vector::_M_range_check: ".toList :=
    SkipsOver.of_ends (by decide)
  have htakes := takes_range "__n (which is " k
    (" >= this->size() (which is ".toList ++ (Binary64.decimalDigits n ++ ")".toList))
  refine capture_eq ?_ hfront htakes rfl
  rw [to_list_cpp_report, hsplit, hmiddle]
  simp only [List.append_assoc]

theorem capture_cpp_size (k n : Nat) :
    rangeSize.capture? (cppReport k n) = some (toString n) := by
  have hsplit : ") >= this->size() (which is ".toList =
      ") >= this->".toList ++ "size() (which is ".toList := by decide
  have hfront : rangeSize.SkipsOver ("vector::_M_range_check: __n (which is ".toList ++
      (Binary64.decimalDigits k ++ ") >= this->".toList)) :=
    (is_number_decimal_digits k).skips_over_between (by decide) (SkipsOver.of_ends (by decide))
      (SkipsOver.of_ends (by decide))
  refine capture_eq ?_ hfront (takes_range "size() (which is " n []) rfl
  rw [to_list_cpp_report, hsplit]
  simp only [List.append_assoc, List.append_nil]

theorem java_values (i : Int) (n : Nat) :
    indexCapture.value? (javaReport i n) = some (toString i) ∧
      sizeCapture.value? (javaReport i n) = some (toString n) := by
  have hindex : indexCapture.patterns = indexWord :: _ := rfl
  have hsize : sizeCapture.patterns = sizeWord :: _ := rfl
  simp [Capture.value?, hindex, hsize, capture_java_index, capture_java_size]

/-- In a C++ report each number is found by the second pattern. -/
theorem cpp_values (k n : Nat) :
    indexCapture.value? (cppReport k n) = some (toString k) ∧
      sizeCapture.value? (cppReport k n) = some (toString n) := by
  have hindex : indexCapture.patterns = indexWord :: rangeIndex :: _ := rfl
  have hsize : sizeCapture.patterns = sizeWord :: rangeSize :: _ := rfl
  simp [Capture.value?, hindex, hsize, capture_cpp_index_word, capture_cpp_size_word,
    capture_cpp_index, capture_cpp_size]

/-! The lines that are mentioned. -/

open Location (wordForm fileForm candidates mentions)

theorem candidates_eq_nil {raw : String} (hword : wordForm.SkipsOver raw.toList)
    (hfile : fileForm.SkipsOver raw.toList) : candidates raw = [] := by
  rw [candidates, mentions, mentions, find_all_eq_nil hword fun _ => rfl,
    find_all_eq_nil hfile fun _ => rfl]
  rfl

/-- No word in a Java report is the one for a line, and no name in it ends like that of a file. -/
theorem java_candidates (i : Int) (n : Nat) : candidates (javaReport i n) = [] := by
  apply candidates_eq_nil
  all_goals
    rw [to_list_java_report]
    refine (is_number_write_int i).skips_over_between (by decide) (SkipsOver.of_ends (by decide))
      (SkipsOver.append (SkipsOver.of_ends (by decide)) ?_)
    exact (is_number_decimal_digits n).skips_over (by decide)

theorem cpp_candidates (k n : Nat) : candidates (cppReport k n) = [] := by
  apply candidates_eq_nil
  all_goals
    refine skips_over_cpp_report k n (by decide) ?_ ?_ ?_
    all_goals exact SkipsOver.of_ends (by decide)

/-! The rule that decides. -/

theorem lower_from_ascii {cs : List Char} (h : ∀ c ∈ cs, c.toNat < 128) (before : List Char) :
    lowerFrom before cs = cs.map Char.toLower := by
  induction cs generalizing before with
  | nil => rfl
  | cons c cs ih =>
    obtain ⟨hc, hcs⟩ := List.forall_mem_cons.mp h
    have hsigma : (c == 'Σ') = false := by
      rw [beq_eq_false_iff_ne]
      rintro rfl
      exact absurd hc (by decide)
    rw [lowerFrom, hsigma, lowerChar, if_pos hc, ih hcs]
    rfl

/-- Whether a character is ASCII, not `c` in small letters, and no slash or capital `F`. -/
def spares (c d : Char) : Bool := d.toNat < 128 && d.toLower != c && d != '/' && d != 'F'

/-- The texts that the rule for divisions looks for have a slash or a capital `F`, and those that
it looks for in any letter case have both a `z` and a `d`. -/
theorem division_by_zero_silent {raw : String} {c : Char} (hc : c = 'z' ∨ c = 'd')
    (hraw : raw.toList.all (spares c) = true) : divisionByZero.fires raw = false := by
  have hchars : ∀ d ∈ raw.toList, d.toNat < 128 ∧ d.toLower ≠ c ∧ d ≠ '/' ∧ d ≠ 'F' := by
    intro d hd
    simpa [spares, and_assoc] using List.all_eq_true.mp hraw d hd
  have hlower : c ∉ (lower raw).toList := by
    rw [lower, String.toList_ofList, lower_from_ascii (fun d hd => (hchars d hd).1) []]
    intro hmem
    obtain ⟨d, hd, hsmall⟩ := List.mem_map.mp hmem
    exact (hchars d hd).2.1 hsmall
  have hslash : '/' ∉ raw.toList := fun hmem => (hchars _ hmem).2.2.1 rfl
  have hcapital : 'F' ∉ raw.toList := fun hmem => (hchars _ hmem).2.2.2 rfl
  have hboth : c ∈ (lower "division by zero").toList ∧
      c ∈ (lower "ZeroDivisionError").toList := by
    rcases hc with rfl | rfl <;> decide
  have hby : '/' ∈ "/ by zero".toList := by decide
  have hsignal : 'F' ∈ "SIGFPE".toList := by decide
  have hfloating : 'F' ∈ "Floating point exception".toList := by decide
  simp only [Rule.fires, divisionByZero, Trigger.fires, Trigger.anyFires,
    contains_of_missing hboth.1 hlower, contains_of_missing hboth.2 hlower,
    contains_of_missing hby hslash, contains_of_missing hsignal hcapital,
    contains_of_missing hfloating hcapital, Bool.or_self]

theorem rule_for_array {t : Target} {raw : String} (hzero : divisionByZero.fires raw = false)
    (harray : arrayOutOfBounds.fires raw = true) :
    Stage.ruleFor .runtime t raw = arrayOutOfBounds := by
  simp [Stage.ruleFor, Rule.first?, Stage.rules, rules, hzero, harray]

theorem rule_for_java_report (t : Target) (i : Int) (n : Nat) :
    Stage.ruleFor .runtime t (javaReport i n) = arrayOutOfBounds := by
  refine rule_for_array (division_by_zero_silent (c := 'z') (Or.inl rfl) ?_) ?_
  · have hnumerals : numerals.all (spares 'z') = true := by decide
    rw [to_list_java_report, List.all_append, List.all_append, List.all_append,
      (is_number_write_int i).all hnumerals, (is_number_decimal_digits n).all hnumerals]
    decide
  · have hname : Text.contains (javaReport i n) "ArrayIndexOutOfBoundsException" = true :=
      contains_of_part (to_list_java_report i n) (by decide)
    simp [Rule.fires, arrayOutOfBounds, Trigger.fires, Trigger.anyFires, hname]

theorem rule_for_cpp_report (t : Target) (k n : Nat) :
    Stage.ruleFor .runtime t (cppReport k n) = arrayOutOfBounds := by
  refine rule_for_array (division_by_zero_silent (c := 'd') (Or.inr rfl) ?_) ?_
  · have hnumerals : numerals.all (spares 'd') = true := by decide
    rw [to_list_cpp_report, List.all_append, List.all_append, List.all_append, List.all_append,
      (is_number_decimal_digits k).all hnumerals, (is_number_decimal_digits n).all hnumerals]
    decide
  · have hname : Text.contains (cppReport k n) "_M_range_check" = true :=
      contains_of_part (to_list_cpp_report k n) (by decide)
    simp [Rule.fires, arrayOutOfBounds, Trigger.fires, Trigger.anyFires, hname]

/-! The diagnostic. -/

theorem int64_of_decimal_digits (n : Nat) : Literal.int64Of? (Binary64.decimalDigits n) =
    if n < 0x8000000000000000 then some (n : Int) else none := by
  have hhead : ∀ c ∈ (Binary64.decimalDigits n).head?, c.isDigit = true :=
    fun c hc => Json.digit_of_decimal_digits (List.mem_of_mem_head? hc)
  have hdigits : (Binary64.decimalDigits n).all Char.isDigit = true :=
    List.all_eq_true.mpr fun d hd => Json.digit_of_decimal_digits hd
  have hempty : (Binary64.decimalDigits n).isEmpty = false :=
    List.isEmpty_eq_false_iff.mpr (Json.decimal_digits_ne_nil n)
  have hvalue : Binary64.natOf (Binary64.decimalDigits n) = n := Json.nat_of_decimal_digits n
  rw [Literal.int64Of?, Literal.read_sign_of_digit hhead]
  simp only [hempty, hdigits, hvalue, Bool.not_true, Bool.or_self, Bool.false_eq_true, if_false]
  -- the size is not negative, so only the upper bound can fail
  have hfits : (-0x8000000000000000 ≤ (n : Int) ∧ (n : Int) < 0x8000000000000000) ↔
      n < 0x8000000000000000 := by omega
  simp only [hfits]

/-- The places are counted from zero, as long as the size fits in 64 bits. -/
theorem valid_range_of_size (n : Nat) : validRange (some (toString n)) =
    if n < 0x8000000000000000 then (if 0 < n then "0 to " ++ toString (n - 1) else "empty")
    else "unknown" := by
  have hread : Literal.int64Of? (toString n).toList =
      if n < 0x8000000000000000 then some (n : Int) else none := by
    rw [to_list_to_string_nat, int64_of_decimal_digits]
  have hlast : 0 < n → Literal.intText ((n : Int) - 1) = toString (n - 1) := by
    intro hpos
    have hcast : (n : Int) - 1 = ((n - 1 : Nat) : Int) := by omega
    rw [hcast, ← to_string_int]
    rfl
  rw [validRange, Option.bind_some, hread]
  split_ifs with hfits hpos
  · simp [hpos, hlast hpos]
  · simp [hpos]
  · rfl

end Crash

theorem Rule.exists_build (r : Rule) (raw : String) (line : Option Nat) :
    ∃ d, r.build raw line = r.refine (r.captured raw) d := ⟨_, rfl⟩

namespace Diagnostic

/-- The diagnostic names the index, the size of the array and the places that it has. -/
structure NamesBounds (d : Diagnostic) (i : Int) (n : Nat) : Prop where
  category : d.category = .arrayOutOfBounds
  description : d.description = "You tried to access index " ++ toString i ++
    ", but the array only has " ++ toString n ++ " elements"
  details : d.details = [("arraySize", toString n), ("index", toString i),
    ("validRange", if 0 < n then "0 to " ++ toString (n - 1) else "empty")]

variable (t : Target) (source : Option String) (options : ClassificationOptions)

theorem captured_of_values {raw : String} {index size : Option String}
    (hindex : Crash.indexCapture.value? raw = index) (hsize : Crash.sizeCapture.value? raw = size) :
    Crash.arrayOutOfBounds.captured raw = [("index", index), ("size", size)] := by
  rw [← hindex, ← hsize]
  have hnames : "index" < "size" := by decide
  exact Json.sort_members_of_ascending [("index", _), ("size", _)] (List.pairwise_pair.mpr hnames)

/-- Numbers have no braces, so the index is put in where the description names it. -/
theorem fill_description (raw index : String)
    (hindex : (Crash.arrayOutOfBounds.captured raw).value? "index" = some index) :
    (Crash.arrayOutOfBounds.captured raw).fill Crash.arrayOutOfBounds.description =
      "You tried to access index " ++ index := by
  have hmem : Crash.arrayOutOfBounds ∈ Stage.allRules .runtime .cpp := by
    simp [Stage.allRules, Stage.rules, Crash.rules]
  have honce : Crash.arrayOutOfBounds.FillsAtOnce raw :=
    (Stage.fills_at_once_iff hmem raw).1.mpr fun h =>
      absurd ((Stage.fills_at_once_iff hmem raw).2 h).1 (by decide)
  have hnames : (Crash.arrayOutOfBounds.captured raw).map (·.1) = ["index", "size"] := by
    rw [Rule.names_captured]
    decide
  have hparse : Piece.parse ["index", "size"] 0 Crash.arrayOutOfBounds.description.toList =
      "You tried to access index ".toList.map Piece.char ++ [.slot "index"] := by decide
  have hchars (f : String → List Char) (cs : List Char) :
      Piece.writeAll f (cs.map Piece.char ++ [.slot "index"]) = cs ++ f "index" := by
    simp [Piece.writeAll, List.flatMap_map, Piece.write]
  rw [honce _ (by simp [Rule.templates]), Captured.fillAtOnce, hnames, hparse, hchars, hindex,
    Captured.shown, Option.getD_some, ← String.toList_append, String.ofList_toList]

theorem details_of_values {captured : Captured} {index size : String}
    (hindex : captured.value? "index" = some index) (hsize : captured.value? "size" = some size)
    (d : Diagnostic) : (Crash.withBounds captured d).details =
      [("arraySize", size), ("index", index), ("validRange", Crash.validRange (some size))] := by
  rw [Crash.withBounds, hindex, hsize]
  rfl

/-- A report that mentions no line has a diagnostic, whatever code is known. -/
theorem window_fits_of_no_candidates {raw : String} (h : Location.candidates raw = []) :
    options.WindowFits raw source := by
  intro code _ n hline
  rw [Location.find?, h] at hline
  cases hline

theorem names_bounds_of_values {raw : String} {i : Int} {n : Nat}
    (hrule : Stage.ruleFor .runtime t raw = Crash.arrayOutOfBounds)
    (hvalues : Crash.indexCapture.value? raw = some (toString i) ∧
      Crash.sizeCapture.value? raw = some (toString n)) (hn : n < 0x8000000000000000)
    {d : Diagnostic} (hd : classify .runtime t raw source options = .ok d) : d.NamesBounds i n := by
  have hcaptured := captured_of_values hvalues.1 hvalues.2
  have hindex : (Crash.arrayOutOfBounds.captured raw).value? "index" = some (toString i) := by
    rw [hcaptured]
    rfl
  have hsize : (Crash.arrayOutOfBounds.captured raw).value? "size" = some (toString n) := by
    rw [hcaptured]
    rfl
  have hfollows := classify_follows hd
  rw [hrule] at hfollows
  obtain ⟨context, -, rfl⟩ := classify_eq_ok_iff.mp hd
  refine ⟨?_, ?_, ?_⟩
  · rw [hrule]
    rfl
  · have hnote : Crash.arrayOutOfBounds.sizeNote [("index", some (toString i)),
        ("size", some (toString n))] = ", but the array only has " ++ toString n ++ " elements" :=
      rfl
    rw [hfollows.description, fill_description raw _ hindex, hcaptured, hnote]
    simp only [String.append_assoc]
  · obtain ⟨e, hbuild⟩ := Crash.arrayOutOfBounds.exists_build raw
      (Location.find? raw options.lineOffset source)
    have hrefine : Crash.arrayOutOfBounds.refine = Crash.withBounds := rfl
    rw [hrule, hbuild, hrefine, details_of_values hindex hsize, Crash.valid_range_of_size,
      if_pos hn]

/-- Java and C++ reports of an index outside an array are taken for what they are, whatever the
target, and the diagnostic names the index, the size and the places of the report. -/
theorem classify_names_bounds (n : Nat) (hn : n < 0x8000000000000000) :
    (∀ i : Int, ∃ d, classify .runtime t (Crash.javaReport i n) source options = .ok d ∧
      d.NamesBounds i n) ∧
    ∀ k : Nat, ∃ d, classify .runtime t (Crash.cppReport k n) source options = .ok d ∧
      d.NamesBounds k n := by
  constructor
  · intro i
    obtain ⟨d, hd⟩ := classify_returns_iff.mpr
      (window_fits_of_no_candidates source options (Crash.java_candidates i n))
    exact ⟨d, hd, names_bounds_of_values t source options (Crash.rule_for_java_report t i n)
      (Crash.java_values i n) hn hd⟩
  · intro k
    obtain ⟨d, hd⟩ := classify_returns_iff.mpr
      (window_fits_of_no_candidates source options (Crash.cpp_candidates k n))
    exact ⟨d, hd, names_bounds_of_values t source options (Crash.rule_for_cpp_report t k n)
      (Crash.cpp_values k n) hn hd⟩

/-- The greatest size, and an index that is less than zero. -/
theorem classify_names_bounds_of_greatest_size :
    0x7FFFFFFFFFFFFFFF < 0x8000000000000000 ∧
    ∃ d, classify .runtime .java (Crash.javaReport (-1) 0x7FFFFFFFFFFFFFFF) none ⟨2, 0⟩ = .ok d ∧
      d.NamesBounds (-1) 0x7FFFFFFFFFFFFFFF :=
  ⟨by decide, (classify_names_bounds .java none ⟨2, 0⟩ 0x7FFFFFFFFFFFFFFF (by decide)).1 (-1)⟩

end Diagnostic

end CodeJudge
