import CodeJudge.Settings
import Mathlib.Tactic.SplitIfs
/-!
Settings that are accepted. A field is the standard one or was read from a node, so what holds of
the one and of everything that a node can give holds of the field.
-/
namespace CodeJudge

namespace Yaml.Node

theorem size_lt {n : Node} {k : Nat} (h : n.size? = some k) : k < UInt64.size := by
  unfold size? at h
  split at h
  · split at h
    all_goals
      obtain ⟨-, hk⟩ := Option.filter_eq_some_iff.mp h
      exact of_decide_eq_true hk
  · cases h

end Yaml.Node

namespace Settings

theorem default_or_read {α : Type} {entries : List (String × Yaml.Node)} {name : String}
    {read : Yaml.Node → Option α} {standard a : α}
    (h : fieldOr? entries name read standard = some a) :
    a = standard ∨ ∃ node, read node = some a := by
  obtain ⟨found, -, hfound⟩ := Option.bind_eq_some_iff.mp h
  cases found with
  | none => exact Or.inl (Option.some.inj hfound).symm
  | some node => exact Or.inr ⟨node, hfound⟩

/-- What the numbers among the settings come from. -/
theorem default_or_read_of_node {n : Yaml.Node} {s : Settings} (h : ofNode? n = some s) :
    (s.contextLines = default.contextLines ∨
        ∃ node : Yaml.Node, node.size? = some s.contextLines) ∧
      (s.tolerance = default.tolerance ∨ ∃ node : Yaml.Node, node.float? = some s.tolerance) := by
  obtain ⟨entries, -, h⟩ := Option.bind_eq_some_iff.mp h
  obtain ⟨contextLines, hcontext, h⟩ := Option.bind_eq_some_iff.mp h
  obtain ⟨logLevel, -, h⟩ := Option.bind_eq_some_iff.mp h
  obtain ⟨defaultTarget, -, h⟩ := Option.bind_eq_some_iff.mp h
  obtain ⟨tolerance, htolerance, h⟩ := Option.bind_eq_some_iff.mp h
  cases h
  exact ⟨default_or_read hcontext, default_or_read htolerance⟩

theorem of_yaml_eq_ok_iff (y : String) (s : Settings) :
    ofYaml y = .ok s ↔
      if Text.isBlankText y then s = default
      else (Yaml.read? y).bind ofNode? = some s ∧ s.tolerance.isNaN = false ∧
        s.tolerance.isNegative = false := by
  rw [ofYaml]
  split_ifs with hblank
  · rw [Except.ok.injEq, eq_comm]
  · cases hread : (Yaml.read? y).bind ofNode? with
    | none => simp
    | some settings =>
      dsimp only
      split_ifs with hrefused
      · rw [Bool.or_eq_true] at hrefused
        simp only [Option.some.injEq, false_iff]
        rintro ⟨rfl, hnan, hnegative⟩
        simp [hnan, hnegative] at hrefused
      · simp only [Bool.not_eq_true, Bool.or_eq_false_iff] at hrefused
        simp only [Except.ok.injEq, Option.some.injEq, iff_self_and]
        rintro rfl
        exact hrefused

variable {y : String} {s : Settings}

theorem of_yaml_eq_ok_of_option (h : (ofYaml y).toOption = some s) : ofYaml y = .ok s := by
  cases hy : ofYaml y with
  | error e =>
    rw [hy] at h
    cases h
  | ok settings =>
    rw [hy] at h
    exact congrArg Except.ok (Option.some.inj h)

theorem default_or_read_of_yaml (h : ofYaml y = .ok s) :
    (s.contextLines = default.contextLines ∨
        ∃ node : Yaml.Node, node.size? = some s.contextLines) ∧
      (s.tolerance = default.tolerance ∨ ∃ node : Yaml.Node, node.float? = some s.tolerance) := by
  rw [of_yaml_eq_ok_iff] at h
  split_ifs at h with hblank
  · rw [h]
    exact ⟨Or.inl rfl, Or.inl rfl⟩
  · obtain ⟨n, -, hn⟩ := Option.bind_eq_some_iff.mp h.1
    exact default_or_read_of_node hn

/-- A number of lines that is accepted has 64 bits. -/
theorem context_lines_lt (h : ofYaml y = .ok s) : s.contextLines < UInt64.size := by
  obtain ⟨hdefault | ⟨node, hnode⟩, -⟩ := default_or_read_of_yaml h
  · rw [hdefault]
    decide
  · exact Yaml.Node.size_lt hnode

/-- A tolerance that is accepted is a number, and it is not below zero. -/
theorem tolerance_accepted (h : ofYaml y = .ok s) :
    s.tolerance.isNaN = false ∧ s.tolerance.isNegative = false := by
  rw [of_yaml_eq_ok_iff] at h
  split_ifs at h with hblank
  · rw [h]
    decide
  · exact h.2

end Settings

end CodeJudge
