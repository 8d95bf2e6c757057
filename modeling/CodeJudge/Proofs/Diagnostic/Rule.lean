import CodeJudge.Diagnostic.Classification
import Mathlib
/-!
What the rule that decides brings into a diagnostic. Only the rule for arrays changes a diagnostic
once its texts are filled in, and it changes nothing but the description and the details.
-/
namespace CodeJudge

namespace Stage

/-- The rules that may decide, and the one that stands in for them. -/
def allRules (s : Stage) (t : Target) : List Rule := s.fallback :: s.rules t

theorem rule_for_mem (s : Stage) (t : Target) (raw : String) :
    s.ruleFor t raw ∈ s.allRules t := by
  rw [ruleFor, allRules]
  cases h : Rule.first? (s.rules t) raw with
  | none => exact List.mem_cons_self
  | some r => exact List.mem_cons_of_mem _ (List.mem_of_find?_eq_some h)

theorem refine_of_mem {s : Stage} {t : Target} {r : Rule} (hr : r ∈ s.allRules t) :
    r = Crash.arrayOutOfBounds ∨
      r.category ≠ .arrayOutOfBounds ∧ ∀ captured d, r.refine captured d = d := by
  -- the rules are a table, and one of them changes what it builds
  cases s with
  | compile =>
    right
    revert r
    cases t <;>
      simp [allRules, fallback, rules, Compilation.rules, Compilation.fallback,
        Compilation.pythonRules, Compilation.javascriptRules, Compilation.javaRules,
        Compilation.cppRules]
  | runtime =>
    revert r
    simp [allRules, fallback, rules, Crash.rules, Crash.fallback, Crash.divisionByZero,
      Crash.nullPointer, Crash.stackOverflow]

end Stage

namespace Rule

/-- The values that the rule finds in the text of a failure. -/
def captured (r : Rule) (raw : String) : Captured := Captured.ofCaptures r.captures raw

/-- What the description says of the size of an array, if the rule is the one for arrays. -/
def sizeNote (r : Rule) (captured : Captured) : String :=
  if r.category = .arrayOutOfBounds then
    (captured.value? "size").elim "" fun n => ", but the array only has " ++ n ++ " elements"
  else ""

/-- What stands behind the title of a failure on a known line, if the rule wants it there. -/
def lineNote (r : Rule) (line : Option Nat) : String :=
  if r.lineInTitle then line.elim "" fun n => " on Line " ++ toString n else ""

theorem title_text_eq (r : Rule) (captured : Captured) (line : Option Nat) :
    r.titleText captured line = captured.fill r.title ++ r.lineNote line := by
  simp only [titleText, lineNote]
  cases line <;> cases r.lineInTitle <;> simp [String.append_assoc]

end Rule

/-- The diagnostic has the texts of the rule, each filled in, and the line. -/
structure Diagnostic.Follows (d : Diagnostic) (r : Rule) (captured : Captured)
    (line : Option Nat) : Prop where
  lineNumber : d.lineNumber = line
  title : d.title = captured.fill r.title ++ r.lineNote line
  description : d.description = captured.fill r.description ++ r.sizeNote captured
  suggestions : d.suggestions = r.suggestions.map captured.fill

theorem Rule.build_follows {s : Stage} {t : Target} {r : Rule} (hr : r ∈ s.allRules t)
    (raw : String) (line : Option Nat) : (r.build raw line).Follows r (r.captured raw) line := by
  rcases Stage.refine_of_mem hr with rfl | ⟨hcategory, hrefine⟩
  · have hnote (captured : Captured) (d : Diagnostic) :
        (Crash.withBounds captured d).description =
          d.description ++ Crash.arrayOutOfBounds.sizeNote captured := by
      have harray : Crash.arrayOutOfBounds.category = .arrayOutOfBounds := rfl
      simp only [Crash.withBounds, Rule.sizeNote, harray, if_true]
      cases captured.value? "size" <;> simp [String.append_assoc]
    exact ⟨rfl, Rule.title_text_eq _ _ line, hnote _ _, rfl⟩
  · have hnone : r.sizeNote (r.captured raw) = "" := if_neg hcategory
    rw [Rule.build, hrefine]
    exact ⟨rfl, Rule.title_text_eq r _ line, by rw [hnone, String.append_empty]; rfl, rfl⟩

namespace Diagnostic

variable {s : Stage} {t : Target} {raw : String} {source : Option String}
  {options : ClassificationOptions} {d : Diagnostic}

/-- A diagnostic is what the rule that decides builds, with the context of the line that is found if
that can be made. -/
theorem classify_eq_ok_iff :
    classify s t raw source options = .ok d ↔
      ∃ context, Location.contextOf? source (Location.find? raw options.lineOffset source)
          options.contextLines = .ok context ∧
        d = { (s.ruleFor t raw).build raw (Location.find? raw options.lineOffset source) with
          codeContext := context } := by
  rw [classify]
  dsimp only
  cases Location.contextOf? source (Location.find? raw options.lineOffset source)
      options.contextLines with
  | error e =>
    refine iff_of_false (fun h => ?_) fun ⟨_, h, _⟩ => ?_
    · cases h
    · cases h
  | ok context =>
    constructor
    · intro h
      cases h
      exact ⟨context, rfl, rfl⟩
    · rintro ⟨_, ⟨⟩, rfl⟩
      rfl

/-- A diagnostic follows the rule that decides, on the line that is found. -/
theorem classify_follows (h : classify s t raw source options = .ok d) :
    d.Follows (s.ruleFor t raw) ((s.ruleFor t raw).captured raw)
      (Location.find? raw options.lineOffset source) := by
  obtain ⟨context, -, rfl⟩ := classify_eq_ok_iff.mp h
  have hbuild := Rule.build_follows (s.rule_for_mem t raw) raw
    (Location.find? raw options.lineOffset source)
  exact ⟨hbuild.lineNumber, hbuild.title, hbuild.description, hbuild.suggestions⟩

end Diagnostic

end CodeJudge
