import CodeJudge.Registry.Support
import Mathlib
/-!
Support. A look-up fails exactly if the strategy is missing or may not be used for the target, and
every pair that a failed look-up names is one that the support matrix lists as missing.
-/
namespace CodeJudge

theorem BaseType.mem_all (b : BaseType) : b ∈ all := by
  cases b <;> decide

theorem Target.mem_all (t : Target) : t ∈ all := by
  cases t <;> decide

/-- The error is about the base type and the target. A base type without a strategy has none for
any target. -/
def RegistryError.Names : RegistryError → BaseType → Target → Prop
  | unknown b _, c, _ => c = b
  | unsupported b t _, c, u => c = b ∧ u = t

namespace Registry

/-- A strategy of the role is registered for the base type and may be used for the target. -/
def Supports (r : Registry) (role : Role) (b : BaseType) (t : Target) : Prop :=
  ∃ s, (r.strategies role).lookup b = some s ∧ s.supports t = true

/-- What is wrong with the strategy of a role for a base type and a target, if anything is. -/
def gap? (r : Registry) (role : Role) (b : BaseType) (t : Target) : Option RegistryError :=
  match (r.strategies role).lookup b with
  | none => some (.unknown b role)
  | some s => if s.supports t then none else some (.unsupported b t role)

variable (r : Registry) (role : Role) (b : BaseType) (t : Target)

theorem gap_eq_none_iff : r.gap? role b t = none ↔ r.Supports role b t := by
  rw [gap?, Supports]
  cases (r.strategies role).lookup b with
  | none => simp
  | some s => simp

/-- A look-up gives a strategy if nothing is wrong with it, and else says what is. -/
theorem strategy_for_cases :
    (∃ s, r.strategyFor role b t = .ok s ∧ r.gap? role b t = none) ∨
      ∃ e, r.strategyFor role b t = .error e ∧ r.gap? role b t = some e := by
  rw [strategyFor, strategy, gap?]
  cases (r.strategies role).lookup b with
  | none => exact Or.inr ⟨_, rfl, rfl⟩
  | some s =>
    by_cases hs : s.supports t = true
    · exact Or.inl ⟨s, by simp [hs], by simp [hs]⟩
    · exact Or.inr ⟨.unsupported b t role, by simp [hs], by simp [hs]⟩

theorem strategy_for_isOk : (r.strategyFor role b t).isOk = true ↔ r.Supports role b t := by
  rw [← gap_eq_none_iff]
  rcases r.strategy_for_cases role b t with ⟨s, hs, hgap⟩ | ⟨e, he, hgap⟩
  · simp [hs, hgap, Except.isOk, Except.toBool]
  · simp [he, hgap, Except.isOk, Except.toBool]

theorem names_of_gap {r : Registry} {role : Role} {b : BaseType} {t : Target} {e : RegistryError}
    (h : r.gap? role b t = some e) : e.Names b t := by
  rw [gap?] at h
  split at h
  · cases h
    rfl
  · split_ifs at h
    cases h
    exact ⟨rfl, rfl⟩

end Registry

namespace SupportMatrix

theorem mem_missing_iff (r : Registry) (b : BaseType) (t : Target) :
    (b, t) ∈ (ofRegistry r).missing ↔
      ¬ (r.Supports .parsing b t ∧ r.Supports .serialization b t) := by
  rw [← r.strategy_for_isOk, ← r.strategy_for_isOk, ← Bool.and_eq_true, Bool.not_eq_true]
  constructor
  · intro h
    obtain ⟨e, he, hbt⟩ := List.mem_map.mp h
    obtain ⟨he, hlacks⟩ := List.mem_filter.mp he
    obtain ⟨c, -, he⟩ := List.mem_flatMap.mp he
    obtain ⟨u, -, rfl⟩ := List.mem_map.mp he
    cases hbt
    exact (Bool.not_eq_true' _).mp hlacks
  · intro h
    let e : SupportEntry :=
      ⟨b, t, (r.strategyFor .parsing b t).isOk, (r.strategyFor .serialization b t).isOk⟩
    have hentry : e ∈ (ofRegistry r).entries :=
      List.mem_flatMap.mpr ⟨b, b.mem_all, List.mem_map.mpr ⟨t, t.mem_all, rfl⟩⟩
    have hlacks : (!e.isFull) = true := (Bool.not_eq_true' _).mpr h
    exact List.mem_map.mpr ⟨e, List.mem_filter.mpr ⟨hentry, hlacks⟩, rfl⟩

theorem missing_of_gap {r : Registry} {role : Role} {b : BaseType} {t : Target}
    {e : RegistryError} (h : r.gap? role b t = some e) {c : BaseType} {u : Target}
    (hn : e.Names c u) : (c, u) ∈ (ofRegistry r).missing := by
  -- the strategy of the role is missing for every pair that the error names
  have hgap : ¬ r.Supports role c u := by
    rw [← Registry.gap_eq_none_iff]
    rw [Registry.gap?] at h ⊢
    cases hfound : (r.strategies role).lookup b with
    | none =>
      rw [hfound] at h
      cases h
      obtain rfl : c = b := hn
      simp [hfound]
    | some s =>
      rw [hfound] at h
      dsimp only at h
      split_ifs at h with hs
      cases h
      obtain ⟨rfl, rfl⟩ : c = b ∧ u = t := hn
      simp [hfound, hs]
  rw [mem_missing_iff]
  rintro ⟨hparsing, hserialization⟩
  cases role with
  | parsing => exact hgap hparsing
  | serialization => exact hgap hserialization

end SupportMatrix

end CodeJudge
