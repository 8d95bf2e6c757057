import CodeJudge.Proofs.Diagnostic.Filling
import CodeJudge.Proofs.Diagnostic.Window
import CodeJudge.Proofs.Json.Arrangement
import CodeJudge.Proofs.Text.Pattern
/-!
Which diagnostics have their values put in at once. A rule with one value cannot go wrong, and the
values that a rule for arrays or for Java types finds have no braces. Only the C++ rule for types
finds texts with braces, and there the type found is put in behind the expected one.
-/
namespace CodeJudge

open Text Piece

/-! Values that are found. -/

namespace Capture

/-- The value in a text of a failure. -/
def value? (c : Capture) (raw : String) : Option String :=
  c.patterns.findSome? (·.capture? raw) <|> c.default

/-- Whether neither the patterns nor the default give a value with an opening brace. -/
def isBraceless (c : Capture) : Bool :=
  (c.patterns.all fun p => !p.mayHold '\x7b') && c.default.all fun s => !s.toList.contains '\x7b'

theorem no_brace {c : Capture} (h : c.isBraceless = true) (raw : String) :
    '\x7b' ∉ Captured.shown (c.value? raw) := by
  obtain ⟨hpatterns, hdefault⟩ := Bool.and_eq_true_iff.mp h
  rw [value?]
  cases hfound : c.patterns.findSome? (·.capture? raw) with
  | some v =>
    obtain ⟨p, hp, hv⟩ := List.exists_of_findSome?_eq_some hfound
    intro hbrace
    have hhold := Pattern.may_hold_of_capture hv '\x7b' hbrace
    have hnot := List.all_eq_true.mp hpatterns p hp
    simp [hhold] at hnot
  | none =>
    cases hvalue : c.default with
    | none => decide
    | some s =>
      rw [hvalue] at hdefault
      have hbrace : '\x7b' ∉ s.toList := by simpa using hdefault
      exact hbrace

end Capture

namespace Captured

theorem mem_of_captures {captures : List Capture} {raw : String} {m : String × Option String}
    (h : m ∈ ofCaptures captures raw) : ∃ c ∈ captures, m = (c.name, c.value? raw) := by
  obtain ⟨c, hc, rfl⟩ := List.mem_map.mp (Json.mem_of_mem_sort_members h)
  exact ⟨c, hc, rfl⟩

theorem length_of_captures_le {captures : List Capture} (h : captures.length ≤ 1)
    (raw : String) : (ofCaptures captures raw).length ≤ 1 := by
  cases captures with
  | nil => exact Nat.zero_le 1
  | cons c captures =>
    obtain rfl : captures = [] := List.eq_nil_of_length_eq_zero (by simpa using h)
    exact le_rfl

theorem mem_of_value {c : Captured} {name v : String} (h : c.value? name = some v) :
    (name, some v) ∈ c := by
  obtain ⟨front, back, hsplit, -⟩ := List.lookup_eq_some_iff.mp (Option.join_eq_some_iff.mp h)
  simp [hsplit]

/-- The expected type has the name of the type found in braces, and another type was found. -/
def NamesFound (c : Captured) : Prop :=
  ∃ e f, c.value? "expected" = some e ∧ c.value? "found" = some f ∧
    Text.contains e "\x7bfound\x7d" = true ∧ f ≠ "\x7bfound\x7d"

theorem contains_placeholder_iff (s name : String) :
    Text.contains s ("\x7b" ++ name ++ "\x7d") = true ↔ placeholder name <:+: s.toList := by
  rw [Text.contains, occurs_in_iff, to_list_placeholder]

theorem not_names_found_of_single {c : Captured} (hc : c.length ≤ 1) : ¬ c.NamesFound := by
  rintro ⟨e, f, he, hf, -⟩
  have hexpected := mem_of_value he
  have hfound := mem_of_value hf
  match c, hc with
  | [m], _ =>
    rw [← List.mem_singleton.mp hexpected] at hfound
    simp at hfound

theorem not_names_found_of_no_brace {c : Captured} (h : ∀ m ∈ c, '\x7b' ∉ shown m.2) :
    ¬ c.NamesFound := by
  rintro ⟨e, f, he, -, hcontains, -⟩
  have hoccurs := (contains_placeholder_iff e "found").mp hcontains
  exact h _ (mem_of_value he) (hoccurs.subset List.mem_cons_self)

end Captured

/-! Rules. -/

namespace Rule

/-- The names of the values in the order in which they are put in. -/
def names (r : Rule) : List String :=
  (Json.sortMembers (r.captures.map fun c => (c.name, ()))).map (·.1)

/-- The texts with places for values. -/
def templates (r : Rule) : List String := r.title :: r.description :: r.suggestions

/-- Whether all names have space around them in all texts. -/
def isSpaced (r : Rule) : Bool :=
  r.names.all isPlain &&
    r.templates.all fun template => areSpaced r.names (parse r.names 0 template.toList)

/-- All texts of the rule are filled as if its values were put in at once. -/
def FillsAtOnce (r : Rule) (raw : String) : Prop :=
  ∀ template ∈ r.templates,
    (r.captured raw).fill template = (r.captured raw).fillAtOnce template

theorem names_captured (r : Rule) (raw : String) : (r.captured raw).map (·.1) = r.names := by
  -- the names are sorted whatever their values are
  have hunit := Json.sort_members_map (fun _ : Option String => ())
    (r.captures.map fun c => (c.name, c.value? raw))
  rw [List.map_map] at hunit
  have hkeys := congrArg (List.map (·.1)) hunit
  rw [List.map_map] at hkeys
  exact hkeys.symm

/-- A rule with space around its names puts settled values in at once. -/
theorem fills_at_once_of_settled {r : Rule} (h : r.isSpaced = true) {raw : String}
    (hsettled : (r.captured raw).IsSettled) : r.FillsAtOnce raw := by
  intro template htemplate
  obtain ⟨hnames, hspaced⟩ := Bool.and_eq_true_iff.mp h
  refine Captured.fill_eq_at_once ?_ hsettled ?_
  · intro m hm
    refine List.all_eq_true.mp hnames m.1 ?_
    rw [← names_captured r raw]
    exact List.mem_map_of_mem hm
  · rw [names_captured]
    exact List.all_eq_true.mp hspaced template htemplate

theorem fills_at_once_of_single {r : Rule} {raw : String} (h : (r.captured raw).length ≤ 1) :
    r.FillsAtOnce raw := fun template _ => Captured.fill_eq_at_once_of_single h template

/-- The rule for types that cannot be converted, as far as its values go. -/
structure IsMismatch (r : Rule) : Prop where
  names : r.names = ["expected", "found"]
  default : ∀ c ∈ r.captures, c.default.isSome = true
  slot : slot "expected" ∈ parse r.names 0 r.description.toList

theorem IsMismatch.captured_eq {r : Rule} (h : r.IsMismatch) (raw : String) :
    ∃ e f, r.captured raw = [("expected", some e), ("found", some f)] := by
  have hnames := (r.names_captured raw).trans h.names
  have hvalues : ∀ m ∈ r.captured raw, ∃ v, m.2 = some v := by
    intro m hm
    obtain ⟨c, hc, rfl⟩ := Captured.mem_of_captures hm
    obtain ⟨v, hv⟩ := Option.isSome_iff_exists.mp (h.default c hc)
    cases hfound : c.patterns.findSome? (·.capture? raw) with
    | none => exact ⟨v, by rw [Capture.value?, hfound, hv]; rfl⟩
    | some w => exact ⟨w, by rw [Capture.value?, hfound]; rfl⟩
  match hall : r.captured raw with
  | [(m, e), (n, f)] =>
    rw [hall] at hnames hvalues
    obtain ⟨v, rfl⟩ := hvalues (m, e) List.mem_cons_self
    obtain ⟨w, rfl⟩ := hvalues (n, f) (List.mem_cons_of_mem _ List.mem_cons_self)
    simp only [List.map_cons, List.map_nil, List.cons.injEq, and_true] at hnames
    obtain ⟨rfl, rfl⟩ := hnames
    exact ⟨v, w, rfl⟩
  | [] => simp [hall] at hnames
  | [m] => simp [hall] at hnames
  | m :: n :: o :: rest => simp [hall] at hnames

end Rule

namespace Captured

/-! The values of the C++ rule for types. -/

variable (e f : String)

theorem names_found_iff : NamesFound [("expected", some e), ("found", some f)] ↔
    placeholder "found" <:+: e.toList ∧ f.toList ≠ placeholder "found" := by
  have hplace : f ≠ "\x7bfound\x7d" ↔ f.toList ≠ placeholder "found" :=
    not_congr String.toList_inj.symm
  rw [← contains_placeholder_iff, ← hplace]
  constructor
  · rintro ⟨_, _, he, hf, hnames⟩
    cases he
    cases hf
    exact hnames
  · intro hnames
    exact ⟨e, f, rfl, rfl, hnames⟩

theorem is_settled_iff : IsSettled [("expected", some e), ("found", some f)] ↔
    ¬ NamesFound [("expected", some e), ("found", some f)] := by
  rw [names_found_iff, not_and_not_right]
  simp [IsSettled, shown]

end Captured

theorem Rule.IsMismatch.fills_at_once_iff {r : Rule} (h : r.IsMismatch)
    (hspaced : r.isSpaced = true) (raw : String) :
    r.FillsAtOnce raw ↔ ¬ (r.captured raw).NamesFound := by
  obtain ⟨e, f, hvalues⟩ := h.captured_eq raw
  have hsettled : (r.captured raw).IsSettled ↔ ¬ (r.captured raw).NamesFound := by
    rw [hvalues]
    exact Captured.is_settled_iff e f
  rw [← hsettled]
  constructor
  · intro hall
    -- the description names the expected type, so it shows whether that was changed
    have hmem : r.description ∈ r.templates := by simp [templates]
    have hdescription := hall r.description hmem
    have hspace := List.all_eq_true.mp (Bool.and_eq_true_iff.mp hspaced).2 r.description hmem
    have hslot := h.slot
    rw [h.names] at hspace hslot
    rw [hvalues] at hdescription ⊢
    exact Captured.is_settled_of_fill_eq (by decide) (by decide) hspace hslot hdescription
  · exact Rule.fills_at_once_of_settled hspaced

namespace Stage

theorem crash_rule_cases {r : Rule} (hr : r ∈ Crash.fallback :: Crash.rules) :
    r.captures.length ≤ 1 ∨ r.isSpaced = true ∧ r.captures.all Capture.isBraceless = true := by
  revert r
  decide

/-- The rules by the values that they put in. -/
theorem rule_cases {s : Stage} {t : Target} {r : Rule} (hr : r ∈ s.allRules t) :
    r.captures.length ≤ 1 ∨ r.isSpaced = true ∧
      (r.captures.all Capture.isBraceless = true ∨
        (s = .compile ∧ t = .cpp ∧ r.category = .typeMismatch) ∧
          r.names = ["expected", "found"] ∧ (∀ c ∈ r.captures, c.default.isSome = true) ∧
          slot "expected" ∈ parse r.names 0 r.description.toList) := by
  cases s with
  | compile =>
    revert r
    cases t <;> decide
  | runtime => exact (crash_rule_cases hr).imp_right (And.imp_right Or.inl)

/-- Every rule puts its values in at once exactly if the expected type does not have the name of
the type found in it, and only the C++ rule for types meets such a type. -/
theorem fills_at_once_iff {s : Stage} {t : Target} {r : Rule} (hr : r ∈ s.allRules t)
    (raw : String) : (r.FillsAtOnce raw ↔ ¬ (r.captured raw).NamesFound) ∧
      ((r.captured raw).NamesFound → s = .compile ∧ t = .cpp ∧ r.category = .typeMismatch) := by
  rcases rule_cases hr with hsingle | ⟨hspaced, hbraceless | ⟨hcpp, hnames, hdefault, hslot⟩⟩
  · have hlen : (r.captured raw).length ≤ 1 := Captured.length_of_captures_le hsingle raw
    have hnot := Captured.not_names_found_of_single hlen
    exact ⟨iff_of_true (Rule.fills_at_once_of_single hlen) hnot, fun h => absurd h hnot⟩
  · have hbrace : ∀ m ∈ r.captured raw, '\x7b' ∉ Captured.shown m.2 := by
      intro m hm
      obtain ⟨c, hc, rfl⟩ := Captured.mem_of_captures hm
      exact Capture.no_brace (List.all_eq_true.mp hbraceless c hc) raw
    have hnot := Captured.not_names_found_of_no_brace hbrace
    have hsettled := Captured.is_settled_of_no_brace hbrace
    exact ⟨iff_of_true (Rule.fills_at_once_of_settled hspaced hsettled) hnot,
      fun h => absurd h hnot⟩
  · have hmismatch : r.IsMismatch := ⟨hnames, hdefault, hslot⟩
    exact ⟨hmismatch.fills_at_once_iff hspaced raw, fun _ => hcpp⟩

end Stage

namespace Diagnostic

/-- The diagnostic has the texts of the rule with all values put in at once. -/
structure FillsAtOnce (d : Diagnostic) (r : Rule) (captured : Captured) : Prop where
  title : d.title = captured.fillAtOnce r.title ++ r.lineNote d.lineNumber
  description : d.description = captured.fillAtOnce r.description ++ r.sizeNote captured
  suggestions : d.suggestions = r.suggestions.map captured.fillAtOnce

theorem Follows.fills_at_once_iff {d : Diagnostic} {r : Rule} {raw : String}
    {line : Option Nat} (h : d.Follows r (r.captured raw) line) :
    d.FillsAtOnce r (r.captured raw) ↔ r.FillsAtOnce raw := by
  constructor
  · intro honce
    -- what stands behind a title and a description is the same in both
    have htitle : (r.captured raw).fill r.title = (r.captured raw).fillAtOnce r.title := by
      have heq := h.title.symm.trans honce.title
      rw [h.lineNumber] at heq
      exact (String.append_left_inj _).mp heq
    have hdescription : (r.captured raw).fill r.description =
        (r.captured raw).fillAtOnce r.description :=
      (String.append_left_inj _).mp (h.description.symm.trans honce.description)
    have hsuggestions := List.map_eq_map_iff.mp (h.suggestions.symm.trans honce.suggestions)
    exact List.forall_mem_cons.mpr
      ⟨htitle, List.forall_mem_cons.mpr ⟨hdescription, hsuggestions⟩⟩
  · intro hall
    obtain ⟨htitle, hrest⟩ := List.forall_mem_cons.mp hall
    obtain ⟨hdescription, hsuggestions⟩ := List.forall_mem_cons.mp hrest
    refine ⟨?_, ?_, ?_⟩
    · rw [h.title, h.lineNumber, htitle]
    · rw [h.description, hdescription]
    · rw [h.suggestions, List.map_congr_left hsuggestions]

/-- The texts of a diagnostic, if there is one, are those of the rule that decides, with all values
put in at once, exactly if the expected type does not have the name of the type found in it. -/
theorem classify_fills_at_once_iff (s : Stage) (t : Target) (raw : String)
    (source : Option String) (options : ClassificationOptions) :
    ((∃ d, classify s t raw source options = .ok d) ↔ options.WindowFits raw source) ∧
    (∀ d, classify s t raw source options = .ok d →
      (d.FillsAtOnce (s.ruleFor t raw) ((s.ruleFor t raw).captured raw) ↔
        ¬ ((s.ruleFor t raw).captured raw).NamesFound)) ∧
    (((s.ruleFor t raw).captured raw).NamesFound →
      s = .compile ∧ t = .cpp ∧ (s.ruleFor t raw).category = .typeMismatch) := by
  obtain ⟨hiff, hcpp⟩ := Stage.fills_at_once_iff (s.rule_for_mem t raw) raw
  refine ⟨classify_returns_iff, ?_, hcpp⟩
  intro d hd
  exact (classify_follows hd).fills_at_once_iff.trans hiff

/-- A type found that looks like a place for a value is shown as it is. -/
theorem classify_fills_at_once_of_braces :
    let raw := "main.cpp:3:2: error: cannot convert '\x7bexpected\x7d' to 'int'"
    let r := Stage.compile.ruleFor .cpp raw
    ∃ d, classify .compile .cpp raw none ⟨2, 0⟩ = .ok d ∧ d.FillsAtOnce r (r.captured raw) ∧
      d.description = "Expected int, but got \x7bexpected\x7d" := by
  intro raw r
  have hexpected : (r.captured raw).value? "expected" = some "int" := by decide
  have hnot : ¬ (r.captured raw).NamesFound := by
    rintro ⟨e, f, he, -, hcontains, -⟩
    obtain rfl : e = "int" := Option.some_injective _ (he.symm.trans hexpected)
    exact absurd hcontains (by decide)
  obtain ⟨hreturns, hfills, -⟩ := classify_fills_at_once_iff .compile .cpp raw none ⟨2, 0⟩
  obtain ⟨d, hd⟩ := hreturns.mpr (window_fits_of_no_source _ raw)
  have hshown : (r.captured raw).fill r.description ++ r.sizeNote (r.captured raw) =
      "Expected int, but got \x7bexpected\x7d" := by decide
  exact ⟨d, hd, (hfills d hd).mpr hnot, (classify_follows hd).description.trans hshown⟩

/-- An expected type that looks like the place of the type found is replaced by it. -/
theorem classify_reads_value_again :
    let raw := "main.cpp:3:2: error: #error cannot convert 'int' to '\x7bfound\x7d'"
    let r := Stage.compile.ruleFor .cpp raw
    ∃ d, classify .compile .cpp raw none ⟨2, 0⟩ = .ok d ∧
      d.description = "Expected int, but got int" ∧
      (r.captured raw).fillAtOnce r.description = "Expected \x7bfound\x7d, but got int" ∧
      ¬ d.FillsAtOnce r (r.captured raw) := by
  intro raw r
  obtain ⟨d, hd⟩ := classify_returns_iff.mpr (window_fits_of_no_source ⟨2, 0⟩ raw)
  have hfilled : (r.captured raw).fill r.description ++ r.sizeNote (r.captured raw) =
      "Expected int, but got int" := by decide
  have hshown : d.description = "Expected int, but got int" :=
    (classify_follows hd).description.trans hfilled
  have honce : (r.captured raw).fillAtOnce r.description =
      "Expected \x7bfound\x7d, but got int" := by decide
  have hnote : r.sizeNote (r.captured raw) = "" := if_neg (by decide)
  refine ⟨d, hd, hshown, honce, ?_⟩
  intro h
  have hdescription := h.description
  rw [hshown, honce, hnote] at hdescription
  exact absurd hdescription (by decide)

end Diagnostic

end CodeJudge
