import CodeJudge.Plan.Basic
import CodeJudge.Proofs.Literal.WellFormed
import CodeJudge.Proofs.Plan.Faults
import CodeJudge.Proofs.Settings.Accepted
/-!
The tolerance of settings that are accepted. It is not below zero and not without a value, but it
may be infinite or a zero with a sign. Any other tolerance is written as a literal that every target
takes and that stands for it.
-/
namespace CodeJudge

open Literal (IsMagnitude)
open Binary64 (finite infinite leastExponent)

/-! Floating literals of the targets. -/

namespace Literal

/-- With a zero in front of other digits a number is not a decimal one in every language. -/
def IsUnpadded (cs : List Char) : Prop :=
  cs.head? = some '0' → cs.takeWhile Char.isDigit = ['0']

/-- The number nearest to a literal is finite, and zero only for a literal of zeros. -/
def IsInRange (cs : List Char) : Prop :=
  ∃ x, Binary64.magnitudeOf? false cs = some x ∧ x.isFinite = true ∧
    (x.isZero = true → ∀ c ∈ cs.takeWhile (fun c => c.isDigit || c == '.'), c = '0' ∨ c = '.')

end Literal

open Literal

/-- Whether a target takes a text for a decimal floating literal. All take digits with a fraction,
an exponent or both; JavaScript no superfluous zero in front, C++ and Java none out of range. -/
def Target.IsFloating : Target → List Char → Prop
  | .python, cs => IsMagnitude cs
  | .javascript, cs => IsMagnitude cs ∧ IsUnpadded cs
  | .cpp, cs => IsMagnitude cs ∧ IsInRange cs
  | .java, cs => IsMagnitude cs ∧ IsInRange cs

namespace Target.IsFloating

variable {t : Target} {cs : List Char}

theorem magnitude (h : t.IsFloating cs) : IsMagnitude cs := by
  cases t with
  | python => exact h
  | javascript | cpp | java => exact h.1

theorem of_all (t : Target) (hmagnitude : IsMagnitude cs) (hunpadded : IsUnpadded cs)
    (hrange : IsInRange cs) : t.IsFloating cs := by
  cases t with
  | python => exact hmagnitude
  | javascript => exact ⟨hmagnitude, hunpadded⟩
  | cpp | java => exact ⟨hmagnitude, hrange⟩

end Target.IsFloating

/-! Finite numbers. -/

namespace Literal

variable {m : Nat} {e : Int}

theorem is_unpadded_magnitude_text (hcanonical : (finite false m e).Canonical)
    (form : Binary64.Form) : IsUnpadded (Binary64.magnitudeText m e form) := by
  rw [Binary64.magnitudeText]
  split_ifs with hzero
  · exact fun _ => rfl
  · obtain ⟨n, htext, -, hdenotes, hunpadded⟩ :=
      (Binary64.shortest form.tie m e).exists_numeral form
    have hdigits := (Binary64.shortest_holds (Nat.pos_of_ne_zero hzero) hcanonical form.tie).1
    rw [htext]
    intro hhead
    rw [hdenotes.head_text] at hhead
    rw [hdenotes.span_whole.1]
    exact hunpadded hdigits.ne' hhead

theorem is_in_range_magnitude_text (hcanonical : (finite false m e).Canonical)
    (form : Binary64.Form) : IsInRange (Binary64.magnitudeText m e form) := by
  refine ⟨finite false m e, Binary64.magnitude_of_magnitude_text hcanonical form, rfl, ?_⟩
  intro hzero
  have hm : m = 0 := beq_iff_eq.mp hzero
  have hzeros : ['0', '.', '0'].takeWhile (fun c => c.isDigit || c == '.') = ['0', '.', '0'] := rfl
  rw [Binary64.magnitudeText, if_pos hm, hzeros]
  simp

theorem is_floating_of_canonical (hcanonical : (finite false m e).Canonical) (t : Target) :
    t.IsFloating ((finite false m e).write .literal) := by
  rw [Binary64.write_finite, if_neg Bool.false_ne_true]
  exact Target.IsFloating.of_all t (is_magnitude_text m e .literal)
    (is_unpadded_magnitude_text hcanonical .literal)
    (is_in_range_magnitude_text hcanonical .literal)

end Literal

theorem Yaml.Node.float_canonical {n : Yaml.Node} {x : Binary64} (h : n.float? = some x) :
    x.Canonical := by
  unfold Yaml.Node.float? at h
  split at h
  · next text _ =>
    generalize (if text.startsWith "+" then String.ofList (text.toList.drop 1) else text) =
      unsigned at h
    dsimp only at h
    split_ifs at h
    · obtain rfl := Option.some.inj h
      trivial
    · obtain rfl := Option.some.inj h
      trivial
    · obtain rfl := Option.some.inj h
      trivial
    · exact Binary64.of_text_canonical (Option.filter_eq_some_iff.mp h).1
  · cases h

namespace Settings

variable {y : String} {s : Settings}

theorem tolerance_canonical (h : ofYaml y = .ok s) : s.tolerance.Canonical := by
  obtain ⟨-, hdefault | ⟨node, hnode⟩⟩ := default_or_read_of_yaml h
  · rw [hdefault]
    exact Binary64.of_decimal_canonical false 1 (-6)
  · exact Yaml.Node.float_canonical hnode

/-- What is accepted and no number without a sign. -/
theorem tolerance_cases (h : ofYaml y = .ok s) : (∃ m e, s.tolerance = finite false m e) ∨
    s.tolerance = infinite false ∨ s.tolerance = finite true 0 leastExponent := by
  obtain ⟨hnan, hnegative⟩ := tolerance_accepted h
  have hcanonical := tolerance_canonical h
  cases htolerance : s.tolerance with
  | nan =>
    rw [htolerance] at hnan
    cases hnan
  | infinite negative =>
    obtain rfl : negative = false := by rwa [htolerance] at hnegative
    exact Or.inr (Or.inl rfl)
  | finite negative m e =>
    cases negative with
    | false => exact Or.inl ⟨m, e, rfl⟩
    | true =>
      -- only zero may have a sign, and it has its one form
      rw [htolerance] at hnegative hcanonical
      obtain rfl : m = 0 := by simpa [Binary64.isNegative] using hnegative
      obtain ⟨-, -, -, hnormal | rfl⟩ := hcanonical
      · exact absurd hnormal (by decide)
      · exact Or.inr (Or.inr rfl)

/-- A word for infinity is no literal, and neither is a literal behind a sign. -/
theorem not_is_floating_of_head {t : Target} {cs : List Char} {c : Char} (hc : cs.head? = some c)
    (hdigit : c.isDigit = false) : ¬ t.IsFloating cs := by
  intro h
  rw [h.magnitude.head?_digit hc] at hdigit
  cases hdigit

theorem tolerance_is_finite (h : ofYaml y = .ok s) (hfinite : s.tolerance ≠ infinite false) :
    s.tolerance.isFinite = true := by
  obtain ⟨m, e, htolerance⟩ | hinfinite | hzero := tolerance_cases h
  · rw [htolerance]
    rfl
  · exact absurd hinfinite hfinite
  · rw [hzero]
    rfl

/-- Only a finite number without a sign is written as a literal. -/
theorem is_floating_tolerance_iff (h : ofYaml y = .ok s) (t : Target) :
    t.IsFloating (s.tolerance.write .literal) ↔
      s.tolerance ≠ infinite false ∧ s.tolerance ≠ finite true 0 leastExponent := by
  constructor
  · intro hliteral
    constructor
    · intro hinfinite
      rw [hinfinite] at hliteral
      exact not_is_floating_of_head rfl (show 'i'.isDigit = false by rfl) hliteral
    · intro hzero
      rw [hzero] at hliteral
      exact not_is_floating_of_head rfl (show '-'.isDigit = false by rfl) hliteral
  · rintro ⟨hfinite, hsigned⟩
    have hcanonical := tolerance_canonical h
    obtain ⟨m, e, htolerance⟩ | hinfinite | hzero := tolerance_cases h
    · rw [htolerance] at hcanonical ⊢
      exact is_floating_of_canonical hcanonical t
    · exact absurd hinfinite hfinite
    · exact absurd hzero hsigned

/-- The tolerance of settings that are accepted is written as a floating literal of every target,
and is read again as it is, unless it is infinite or a zero with a sign: then it is written as the
word `inf`, or as a literal behind its sign. -/
theorem tolerance_literal_iff (h : ofYaml y = .ok s) :
    let text := s.tolerance.toText .literal
    (∀ t : Target, t.IsFloating text.toList ↔
        s.tolerance ≠ infinite false ∧ s.tolerance ≠ finite true 0 leastExponent) ∧
      (s.tolerance = infinite false → text = "inf") ∧
      (s.tolerance = finite true 0 leastExponent → text = "-0.0") ∧
      (s.tolerance ≠ infinite false → Binary64.ofText? text = some s.tolerance) ∧
      ∀ t problem tests r plan, Plan.build t problem tests r s.tolerance = .ok plan →
        plan.toleranceText = text := by
  intro text
  have hwritten : text.toList = s.tolerance.write .literal := String.toList_ofList
  refine ⟨?_, ?_, ?_, ?_, ?_⟩
  · intro t
    rw [hwritten]
    exact is_floating_tolerance_iff h t
  · intro hinfinite
    show s.tolerance.toText .literal = "inf"
    rw [hinfinite]
    rfl
  · intro hzero
    show s.tolerance.toText .literal = "-0.0"
    rw [hzero]
    rfl
  · intro hfinite
    exact Binary64.of_text_to_text (tolerance_canonical h) (tolerance_is_finite h hfinite) .literal
  · intro t problem tests r plan hbuild
    obtain ⟨formats, hbuilt⟩ := Plan.is_built_of_build hbuild
    rw [Plan.toleranceText, hbuilt.tolerance]

/-- A tolerance with a sign, a fraction and an exponent is written without what is superfluous. -/
theorem tolerance_literal_of_exponent :
    let s : Settings := ⟨2, "info", .python, finite false 5666839779443574 (-75)⟩
    ofYaml "float_tolerance: +1.50e-7" = .ok s ∧ s.tolerance.toText .literal = "1.5e-7" ∧
      (∀ t : Target, t.IsFloating (s.tolerance.toText .literal).toList) ∧
      Binary64.ofText? (s.tolerance.toText .literal) = some s.tolerance := by
  intro s
  have haccepted : ofYaml "float_tolerance: +1.50e-7" = .ok s :=
    of_yaml_eq_ok_of_option (by decide +kernel)
  have hwritten : s.tolerance.toText .literal = "1.5e-7" := by decide +kernel
  obtain ⟨hliteral, -, -, hread, -⟩ := tolerance_literal_iff haccepted
  exact ⟨haccepted, hwritten, fun t => (hliteral t).mpr ⟨by decide, by decide⟩, hread (by decide)⟩

/-- Infinity is accepted as a tolerance, and written as a word. -/
theorem tolerance_word_of_infinity :
    ∃ s, ofYaml "float_tolerance: .inf" = .ok s ∧ s.tolerance.toText .literal = "inf" ∧
      ∀ t : Target, ¬ t.IsFloating (s.tolerance.toText .literal).toList := by
  have haccepted : ofYaml "float_tolerance: .inf" =
      .ok ⟨2, "info", .python, infinite false⟩ := of_yaml_eq_ok_of_option (by decide +kernel)
  refine ⟨_, haccepted, rfl, fun t => ?_⟩
  exact not_is_floating_of_head rfl (show 'i'.isDigit = false by rfl)

end Settings

end CodeJudge
