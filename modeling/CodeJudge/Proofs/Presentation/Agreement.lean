import CodeJudge.Proofs.Diagnostic.Taxonomy
import CodeJudge.Proofs.Presentation.Message
import CodeJudge.Proofs.Text.Replace
/-!
Diagnostics and messages of one failure. Both look for words in the text of the failure, each in an
order of its own, and the orders differ in one pair of words: they name the same error unless the
text has both.
-/
namespace CodeJudge.Message

open Text

/-! What is read off the words. -/

/-- A text with a word in it is not blank. -/
theorem not_blank_of_contains {s word : String} (hword : isBlankText word = false)
    (h : Text.contains s word = true) : isBlankText s = false := by
  obtain ⟨c, hc, hvisible⟩ := (not_blank_iff word).mp hword
  have hoccurs := (occurs_in_iff word.toList s.toList).mp h
  exact (not_blank_iff s).mpr ⟨c, hoccurs.subset hc, hvisible⟩

/-- The message for a text with one of the words. -/
theorem of_compilation_of_contains {s word : String} (hword : isBlankText word = false)
    (h : Text.contains s word = true) :
    ofCompilation (some s) =
      if Text.contains s "SyntaxError" then "Syntax Error" ++ place s
      else if Text.contains s "IndentationError" then "Indentation Error" ++ place s
      else if Text.contains s "NameError" then "Name Error" ++ place s ++ ": Variable not defined"
      else if Text.contains s "TypeError" then "Type Error" ++ place s
      else firstLine s := by
  have hshown : shown? (some s) = some s := by
    rw [shown?, Option.filter_some, if_pos]
    rw [not_blank_of_contains hword h]
    rfl
  rw [ofCompilation, hshown]

/-- The kind of failure that the compiler of Python reports. -/
theorem python_category (raw : String) :
    (Stage.compile.ruleFor .python raw).category =
      if Text.contains raw "IndentationError" then .indentationError
      else if Text.contains raw "SyntaxError" then .syntaxError
      else if Text.contains raw "NameError" then .undefinedSymbol
      else .compilationError := by
  rw [Stage.ruleFor, Rule.first?, Stage.rules, Compilation.rules, Compilation.pythonRules]
  simp only [List.find?_cons, Rule.fires, Trigger.fires]
  cases Text.contains raw "IndentationError"
  · cases Text.contains raw "SyntaxError"
    · cases Text.contains raw "NameError" <;> rfl
    · rfl
  · rfl

/-- The words with which a message begins about a kind of failure that Python has a name for. -/
def heading? : Category → Option String
  | .indentationError => some "Indentation Error"
  | .syntaxError => some "Syntax Error"
  | .undefinedSymbol => some "Name Error"
  | _ => none

/-! Which of both orders counts. -/

/-- The diagnostic and the message of a failure, if there is a diagnostic, name the same error
exactly if its text does not mention an error of indentation and one of syntax. -/
theorem heading_agrees_iff (raw : String) (source : Option String)
    (options : ClassificationOptions) :
    ((∃ d, Diagnostic.classify .compile .python raw source options = .ok d) ↔
      options.WindowFits raw source) ∧
    ∀ d, Diagnostic.classify .compile .python raw source options = .ok d →
      ((∀ heading ∈ heading? d.category,
        heading.toList <+: (ofCompilation (some raw)).toList) ↔
      ¬ (Text.contains raw "IndentationError" = true ∧
        Text.contains raw "SyntaxError" = true)) := by
  refine ⟨Diagnostic.classify_returns_iff, ?_⟩
  intro d hd
  have hbegins (heading tail : String) : heading.toList <+: (heading ++ tail).toList := by
    rw [String.toList_append]
    exact List.prefix_append _ _
  rw [(Diagnostic.classify_kind hd).1, python_category]
  by_cases hindentation : Text.contains raw "IndentationError" = true
  · rw [if_pos hindentation, of_compilation_of_contains (by decide) hindentation]
    by_cases hsyntax : Text.contains raw "SyntaxError" = true
    · -- the diagnostic is about indentation, but the message asks for the other word first
      rw [if_pos hsyntax]
      refine iff_of_false ?_ (not_not_intro ⟨hindentation, hsyntax⟩)
      intro h
      have hheading := h "Indentation Error" rfl
      rw [String.toList_append] at hheading
      simp at hheading
    · rw [if_neg hsyntax, if_pos hindentation]
      refine iff_of_true ?_ fun h => hsyntax h.2
      rintro heading ⟨⟩
      exact hbegins _ _
  · rw [if_neg hindentation]
    refine iff_of_true ?_ fun h => hindentation h.1
    by_cases hsyntax : Text.contains raw "SyntaxError" = true
    · rw [if_pos hsyntax, of_compilation_of_contains (by decide) hsyntax, if_pos hsyntax]
      rintro heading ⟨⟩
      exact hbegins _ _
    · rw [if_neg hsyntax]
      by_cases hname : Text.contains raw "NameError" = true
      · rw [if_pos hname, of_compilation_of_contains (by decide) hname, if_neg hsyntax,
          if_neg hindentation, if_pos hname, String.append_assoc]
        rintro heading ⟨⟩
        exact hbegins _ _
      · rw [if_neg hname]
        rintro heading ⟨⟩

/-- A name that is not defined, and is the word for another error. -/
theorem heading_agrees_of_undefined_error :
    let raw := "line 7\nNameError: name 'SyntaxError' is not defined"
    ¬ (Text.contains raw "IndentationError" = true ∧ Text.contains raw "SyntaxError" = true) ∧
    ∃ d, Diagnostic.classify .compile .python raw none ⟨2, 0⟩ = .ok d ∧
      ∀ heading ∈ heading? d.category, heading.toList <+: (ofCompilation (some raw)).toList := by
  intro raw
  have hone : ¬ (Text.contains raw "IndentationError" = true ∧
      Text.contains raw "SyntaxError" = true) := by decide
  obtain ⟨hreturns, hagrees⟩ := heading_agrees_iff raw none ⟨2, 0⟩
  obtain ⟨d, hd⟩ := hreturns.mpr (Diagnostic.window_fits_of_no_source _ raw)
  exact ⟨hone, d, hd, (hagrees d hd).mpr hone⟩

/-- A failure with both words is about indentation in the diagnostic and about syntax in the
message. -/
theorem heading_differs_of_both_words :
    let raw := "  File \"main.py\", line 2\n    return 1\n    ^\nIndentationError: " ++
      "expected an indented block after function definition on line 1\nSyntaxError"
    ∃ d, Diagnostic.classify .compile .python raw none ⟨2, 0⟩ = .ok d ∧
      d.category = .indentationError ∧ ofCompilation (some raw) = "Syntax Error on line 2" ∧
      ¬ ∀ heading ∈ heading? d.category,
        heading.toList <+: (ofCompilation (some raw)).toList := by
  intro raw
  obtain ⟨d, hd⟩ :=
    Diagnostic.classify_returns_iff.mpr (Diagnostic.window_fits_of_no_source ⟨2, 0⟩ raw)
  have hindentation : Text.contains raw "IndentationError" = true := by decide +kernel
  have hcategory : d.category = .indentationError := by
    rw [(Diagnostic.classify_kind hd).1, python_category, if_pos hindentation]
  have hmessage : ofCompilation (some raw) = "Syntax Error on line 2" := by decide +kernel
  refine ⟨d, hd, hcategory, hmessage, ?_⟩
  rw [hcategory, hmessage]
  intro h
  exact absurd (h "Indentation Error" rfl) (by decide)

end CodeJudge.Message
