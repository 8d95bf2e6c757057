import CodeJudge.Proofs.Literal.Integer
import CodeJudge.Proofs.Scalar.Resolution
/-!
Inferred scalar types of integers. The type is fixed by all samples together and widens from one
leaf to the next: what is known after a leaf holds the leaf and all that was held before. So every
integer of 64 bits among the samples has a literal that denotes it; the type has no room for the
others.
-/
namespace CodeJudge

namespace Scalar

/-- Every leaf that shows a scalar type is an integer that JSON data can hold. -/
def OnlyIntegers (leaves : List Json.Value) : Prop :=
  ∀ v ∈ leaves, ∀ s, ofLeaf? v = some s → ∃ i, Json.Number.InRange i ∧ v = .number (.int i)

/-- Nothing is known, or that the samples are integers. -/
def IsIntegral (known : Option Scalar) : Prop :=
  known = none ∨ known = some .int ∨ known = some .long

/-- What is known has room for the integer, as far as 64 bits have. -/
def Covers (known : Option Scalar) (i : Int) : Prop :=
  known = some .int ∧ IsInt32 i ∨ known = some .long

theorem of_leaf_int (i : Int) :
    ofLeaf? (.number (.int i)) = some .int ∧ IsInt32 i ∨
      ofLeaf? (.number (.int i)) = some .long := by
  rw [ofLeaf?]
  split_ifs with hi
  · exact Or.inl ⟨rfl, hi⟩
  · exact Or.inr rfl

/-- One more leaf: what was known becomes no narrower, and the leaf is covered. -/
theorem observe_integer {known : Option Scalar} {v : Json.Value} (hknown : IsIntegral known)
    (hv : ∀ s, ofLeaf? v = some s → ∃ i, v = .number (.int i)) :
    IsIntegral (observe known v) ∧ (∀ i, Covers known i → Covers (observe known v) i) ∧
      ∀ i, v = .number (.int i) → Covers (observe known v) i := by
  cases hleaf : ofLeaf? v with
  | none =>
    rw [observe_hidden hleaf]
    refine ⟨hknown, fun i hi => hi, ?_⟩
    rintro i rfl
    rcases of_leaf_int i with ⟨h, -⟩ | h
    · rw [h] at hleaf
      cases hleaf
    · rw [h] at hleaf
      cases hleaf
  | some s =>
    obtain ⟨i, rfl⟩ := hv s hleaf
    -- the six cases of what is known and what the leaf shows
    rcases of_leaf_int i with ⟨h, hi⟩ | h <;> rcases hknown with rfl | rfl | rfl <;>
      simp [observe, h, widen, IsIntegral, Covers]
    · exact hi
    · exact hi

/-- All leaves: what is known in the end covers each of them. -/
theorem fold_observe_integers {known : Option Scalar} {leaves : List Json.Value}
    (hknown : IsIntegral known) (hleaves : OnlyIntegers leaves) :
    IsIntegral (leaves.foldl observe known) ∧
      (∀ i, Covers known i → Covers (leaves.foldl observe known) i) ∧
      ∀ i, .number (.int i) ∈ leaves → Covers (leaves.foldl observe known) i := by
  induction leaves generalizing known with
  | nil => exact ⟨hknown, fun i hi => hi, by simp⟩
  | cons v leaves ih =>
    have hv : ∀ s, ofLeaf? v = some s → ∃ i, v = .number (.int i) := by
      intro s hs
      obtain ⟨i, -, hi⟩ := hleaves v (by simp) s hs
      exact ⟨i, hi⟩
    obtain ⟨hstep, hkept, hnew⟩ := observe_integer hknown hv
    obtain ⟨hrun, hkeeps, hcovers⟩ := ih hstep fun w hw => hleaves w (by simp [hw])
    rw [List.foldl_cons]
    refine ⟨hrun, fun i hi => hkeeps i (hkept i hi), ?_⟩
    intro i hi
    rcases List.mem_cons.mp hi with hi | hi
    · exact hkeeps i (hnew i hi.symm)
    · exact hcovers i hi

/-- The type that integers resolve to is an integer type, and holds each that has 64 bits. -/
theorem resolve_integers {element : Option String} (helement : element.bind ofName? = none)
    {samples : List Json.Value} (hsamples : OnlyIntegers (leavesOf samples)) {i : Int}
    (hi : .number (.int i) ∈ leavesOf samples) :
    resolve element samples = .int ∧ IsInt32 i ∨ resolve element samples = .long := by
  obtain ⟨-, -, hcovers⟩ := fold_observe_integers (Or.inl rfl) hsamples
  have hresolve : resolve element samples = (ofSamples? samples).getD .int := by
    rw [resolve, helement]
  rw [hresolve, of_samples_eq]
  rcases hcovers i hi with ⟨h, hi32⟩ | h
  · rw [h]
    exact Or.inl ⟨rfl, hi32⟩
  · rw [h]
    exact Or.inr rfl

theorem in_range_of_mem {leaves : List Json.Value} (h : OnlyIntegers leaves) {i : Int}
    (hi : .number (.int i) ∈ leaves) : Json.Number.InRange i := by
  obtain ⟨s, hs⟩ : ∃ s, ofLeaf? (.number (.int i)) = some s := ⟨_, rfl⟩
  obtain ⟨j, hj, hij⟩ := h _ hi s hs
  cases hij
  exact hj

end Scalar

namespace Literal

/-- Both literals of an integer as a scalar type denote it, and the type holds it. -/
def Denotes (s : Scalar) (i : Int) : Prop :=
  Cpp.integer? (Cpp.scalar (.number (.int i)) s).toList = some (s, i) ∧
    Java.integer? (Java.scalar (.number (.int i)) s).toList = some (s, i) ∧ s.Holds i

theorem denotes_iff_holds {s : Scalar} (hs : s = .int ∨ s = .long) (i : Int) :
    Denotes s i ↔ s.Holds i := by
  rw [Denotes, Cpp.integer_literal_iff hs, Java.integer_literal_iff hs, and_self, and_self]

/-- Of samples that are integers, the literals of each one denote it in the type that the samples
resolve to if and only if it is below `2 ^ 63`. -/
theorem denotes_integer_iff {element : Option String}
    (helement : element.bind Scalar.ofName? = none) {samples : List Json.Value}
    (hsamples : Scalar.OnlyIntegers (Scalar.leavesOf samples)) (i : Int)
    (hi : .number (.int i) ∈ Scalar.leavesOf samples) :
    Denotes (Scalar.resolve element samples) i ↔ i < 0x8000000000000000 := by
  have hrange : -0x8000000000000000 ≤ i ∧ i < 0x10000000000000000 :=
    Scalar.in_range_of_mem hsamples hi
  rcases Scalar.resolve_integers helement hsamples hi with ⟨hs, hi32⟩ | hs
  · have hbounds : -0x80000000 ≤ i ∧ i < 0x80000000 := hi32
    rw [hs, denotes_iff_holds (Or.inl rfl)]
    simp only [Scalar.Holds, hi32, true_iff]
    omega
  · rw [hs, denotes_iff_holds (Or.inr rfl)]
    simp only [Scalar.Holds, Scalar.IsInt64]
    omega

/-- Integers of each size, at different depths and next to what is no scalar. -/
def mixedSamples : List Json.Value :=
  [.array [.number (.int (-0x80000000)), .array []],
    .array [.null, .array [.number (.int 3000000000)]], .number (.int (-0x8000000000000000))]

theorem denotes_least_integer :
    (some "unknown").bind Scalar.ofName? = none ∧
      Scalar.OnlyIntegers (Scalar.leavesOf mixedSamples) ∧
      .number (.int (-0x8000000000000000)) ∈ Scalar.leavesOf mixedSamples ∧
      Denotes (Scalar.resolve (some "unknown") mixedSamples) (-0x8000000000000000) := by
  have helement : (some "unknown").bind Scalar.ofName? = none := by decide
  have hleaves : Scalar.leavesOf mixedSamples = [.number (.int (-0x80000000)), .null,
      .number (.int 3000000000), .number (.int (-0x8000000000000000))] := rfl
  have hsamples : Scalar.OnlyIntegers (Scalar.leavesOf mixedSamples) := by
    rw [hleaves]
    intro v hv s hs
    simp only [List.mem_cons, List.not_mem_nil, or_false] at hv
    rcases hv with rfl | rfl | rfl | rfl
    · exact ⟨_, by decide, rfl⟩
    · cases hs
    · exact ⟨_, by decide, rfl⟩
    · exact ⟨_, by decide, rfl⟩
  have hi : .number (.int (-0x8000000000000000)) ∈ Scalar.leavesOf mixedSamples := by
    rw [hleaves]
    simp
  exact ⟨helement, hsamples, hi, (denotes_integer_iff helement hsamples _ hi).mpr (by decide)⟩

/-- The first integer above the greatest long one resolves to a type that does not hold it. -/
theorem not_denotes_unsigned_integer :
    Json.Number.InRange 0x8000000000000000 ∧
      ¬ Denotes (Scalar.resolve none [.number (.int 0x8000000000000000)]) 0x8000000000000000 := by
  have hresolve : Scalar.resolve none [.number (.int 0x8000000000000000)] = .long := rfl
  refine ⟨by decide, ?_⟩
  rw [hresolve, denotes_iff_holds (Or.inr rfl)]
  show ¬ Scalar.IsInt64 _
  decide

end Literal

end CodeJudge
