import CodeJudge.Proofs.Diagnostic.Window
/-!
The kind of failure that a diagnostic names. A rule of a stage names a kind of that stage, only the
one that stands in for the others names the general kind and keeps the text of the failure, and a
diagnostic takes all of that from the rule that decides.
-/
namespace CodeJudge

/-- What a rule for failures of a stage keeps to. -/
structure Rule.Suits (r : Rule) (s : Stage) : Prop where
  compileTime : r.category.isCompileTime = true ↔ s = .compile
  keepRaw : r.keepRaw = true ↔ r.category = s.fallback.category
  two_le : 2 ≤ r.suggestions.length
  le_four : r.suggestions.length ≤ 4

namespace Stage

theorem suits_of_mem {s : Stage} {t : Target} {r : Rule} (hr : r ∈ s.allRules t) : r.Suits s := by
  have htable : ∀ r ∈ s.allRules t, (r.category.isCompileTime = true ↔ s = .compile) ∧
      (r.keepRaw = true ↔ r.category = s.fallback.category) ∧ 2 ≤ r.suggestions.length ∧
        r.suggestions.length ≤ 4 := by
    cases s <;> cases t <;> decide
  obtain ⟨hstage, hraw, htwo, hfour⟩ := htable r hr
  exact ⟨hstage, hraw, htwo, hfour⟩

/-- A rule that waits for something names a kind of its own. -/
theorem category_ne_fallback {s : Stage} {t : Target} {r : Rule} (hr : r ∈ s.rules t) :
    r.category ≠ s.fallback.category := by
  revert r
  cases s <;> cases t <;> decide

/-- The first rule that fires decides, or else the one that stands in. -/
theorem rule_for_cases (s : Stage) (t : Target) (raw : String) :
    (∃ front r back, s.rules t = front ++ r :: back ∧ r.fires raw = true ∧
      (∀ e ∈ front, e.fires raw = false) ∧ s.ruleFor t raw = r) ∨
    (∀ r ∈ s.rules t, r.fires raw = false) ∧ s.ruleFor t raw = s.fallback := by
  rw [ruleFor]
  cases hfirst : Rule.first? (s.rules t) raw with
  | none =>
    right
    exact ⟨by simpa using List.find?_eq_none.mp hfirst, rfl⟩
  | some r =>
    left
    obtain ⟨hfires, front, back, hsplit, hfront⟩ := List.find?_eq_some_iff_append.mp hfirst
    exact ⟨front, r, back, hsplit, hfires, by simpa using hfront, rfl⟩

/-- The kind of failure is the general one exactly if no rule fires. -/
theorem rule_for_fallback_iff (s : Stage) (t : Target) (raw : String) :
    (s.ruleFor t raw).category = s.fallback.category ↔
      ∀ r ∈ s.rules t, r.fires raw = false := by
  rcases s.rule_for_cases t raw with ⟨front, r, back, hsplit, hfires, -, hr⟩ | ⟨hnone, hr⟩
  · have hmem : r ∈ s.rules t := by simp [hsplit]
    rw [hr]
    refine iff_of_false (category_ne_fallback hmem) fun hnone => ?_
    rw [hnone r hmem] at hfires
    cases hfires
  · rw [hr]
    exact iff_of_true rfl hnone

end Stage

namespace Diagnostic

/-- A diagnostic names the kind of the rule that decides, and has the text if the rule keeps it. -/
theorem classify_kind {s : Stage} {t : Target} {raw : String} {source : Option String}
    {options : ClassificationOptions} {d : Diagnostic}
    (h : classify s t raw source options = .ok d) :
    d.category = (s.ruleFor t raw).category ∧
      d.rawError = if (s.ruleFor t raw).keepRaw && !raw.isEmpty then some raw else none := by
  obtain ⟨context, -, rfl⟩ := classify_eq_ok_iff.mp h
  rcases Stage.refine_of_mem (s.rule_for_mem t raw) with hr | ⟨-, hrefine⟩
  · rw [hr]
    exact ⟨rfl, rfl⟩
  · rw [Rule.build, hrefine]
    exact ⟨rfl, rfl⟩

/-- The diagnostic names a kind of failure of the stage, the general one exactly if no rule fires;
then and only then it has the text of the failure, unless that is empty. It has two to four
suggestions. -/
structure KeepsTo (d : Diagnostic) (s : Stage) (t : Target) (raw : String) : Prop where
  compileTime : d.category.isCompileTime = true ↔ s = .compile
  fallback : d.category = s.fallback.category ↔ ∀ r ∈ s.rules t, r.trigger.fires raw = false
  rawError : d.rawError =
    if d.category = s.fallback.category ∧ raw ≠ "" then some raw else none
  two_le : 2 ≤ d.suggestions.length
  le_four : d.suggestions.length ≤ 4

/-- There is a diagnostic exactly if the window around the line that is found can be counted, and
every diagnostic keeps to the stage of its failure. -/
theorem classify_keeps_to_stage (s : Stage) (t : Target) (raw : String) (source : Option String)
    (options : ClassificationOptions) :
    ((∃ d, classify s t raw source options = .ok d) ↔ options.WindowFits raw source) ∧
    (¬ options.WindowFits raw source → classify s t raw source options = .error .size) ∧
    ∀ d, classify s t raw source options = .ok d → d.KeepsTo s t raw := by
  refine ⟨classify_returns_iff, classify_of_not_fits, ?_⟩
  intro d hd
  have hsuits := Stage.suits_of_mem (s.rule_for_mem t raw)
  obtain ⟨hkind, hraw⟩ := classify_kind hd
  have hsuggestions : d.suggestions.length = (s.ruleFor t raw).suggestions.length := by
    rw [(classify_follows hd).suggestions, List.length_map]
  -- the fallback alone keeps the raw text, and an empty one is never shown
  have htext : ((s.ruleFor t raw).keepRaw && !raw.isEmpty) = true ↔
      d.category = s.fallback.category ∧ raw ≠ "" := by
    rw [Bool.and_eq_true, hsuits.keepRaw, hkind]
    simp
  refine ⟨?_, ?_, ?_, ?_, ?_⟩
  · rw [hkind]
    exact hsuits.compileTime
  · rw [hkind]
    exact s.rule_for_fallback_iff t raw
  · rw [hraw]
    simp only [htext]
  · rw [hsuggestions]
    exact hsuits.two_le
  · rw [hsuggestions]
    exact hsuits.le_four

/-- A failure that no rule is meant for, on a line that is shown with both of its neighbours. -/
theorem classify_keeps_to_stage_of_known_line :
    let options : ClassificationOptions := ⟨2, 0⟩
    options.WindowFits "line 2" (some "a\nb\nc") ∧
    ∃ d, classify .runtime .python "line 2" (some "a\nb\nc") options = .ok d ∧
      d.KeepsTo .runtime .python "line 2" := by
  intro options
  have hfits : options.WindowFits "line 2" (some "a\nb\nc") :=
    window_fits_of_line_count (by decide)
  obtain ⟨hreturns, -, hkeeps⟩ :=
    classify_keeps_to_stage .runtime .python "line 2" (some "a\nb\nc") options
  obtain ⟨d, hd⟩ := hreturns.mpr hfits
  exact ⟨hfits, d, hd, hkeeps d hd⟩

/-- The greatest number of lines around a line that is found leaves no diagnostic. -/
theorem no_diagnostic_of_greatest_count :
    let options : ClassificationOptions := ⟨0xffffffffffffffff, 0⟩
    classify .runtime .python "line 1" (some "a\nb") options = .error .size ∧
    ¬ ∃ d, classify .runtime .python "line 1" (some "a\nb") options = .ok d ∧
      d.KeepsTo .runtime .python "line 1" := by
  intro options
  have hline : Location.find? "line 1" 0 (some "a\nb") = some 1 := by decide
  have herror : classify .runtime .python "line 1" (some "a\nb") options = .error .size := by
    refine classify_of_not_fits fun hfits => ?_
    exact absurd (hfits "a\nb" rfl 1 hline) (by decide)
  refine ⟨herror, ?_⟩
  rintro ⟨d, hd, -⟩
  rw [herror] at hd
  cases hd

end Diagnostic

end CodeJudge
