import CodeJudge.Problem.Formats
import CodeJudge.Scalar
import Mathlib.Data.List.Basic
import Mathlib.Tactic
/-!
Scalar types resolved from samples. Samples are gone through leaf by leaf, however deep they nest.
The type is known from the first leaf that shows one; only if that leaf is a number do later leaves
matter, and of these only the numbers, which make the type as wide as the widest of them.
-/
namespace CodeJudge.Scalar

mutual
/-- The values in nested arrays that are no arrays, in order. -/
def leaves : Json.Value → List Json.Value
  | .array items => leavesOf items
  | v => [v]

def leavesOf : List Json.Value → List Json.Value
  | [] => []
  | v :: vs => leaves v ++ leavesOf vs
end

/-- Truth values, numbers and texts show a scalar type; `null` and objects do not. -/
def isShown : Json.Value → Bool
  | .bool _ | .number _ | .string _ => true
  | .null | .array _ | .object _ => false

/-- The leaves that show a scalar type, in order. -/
def shownLeaves (samples : List Json.Value) : List Json.Value := (leavesOf samples).filter isShown

/-- The numbers among leaves, in order. -/
def numbersOf (leaves : List Json.Value) : List Json.Number :=
  leaves.filterMap fun v =>
    match v with
    | .number n => some n
    | _ => none

/-- The numeric types, each wider than the ones before it. -/
def numeric : List Scalar := [int, long, double]

/-- The narrowest numeric type for a number. -/
def ofNumber : Json.Number → Scalar
  | .int i => if IsInt32 i then int else long
  | .float _ => double

/-- The type is that of one of the numbers, and no number has a wider one. -/
def IsWidest (s : Scalar) (numbers : List Json.Number) : Prop :=
  (∃ n ∈ numbers, s = ofNumber n) ∧
    ∀ n ∈ numbers, numeric.idxOf (ofNumber n) ≤ numeric.idxOf s

/-! Widening. -/

theorem of_number_mem (n : Json.Number) : ofNumber n ∈ numeric := by
  cases n with
  | int i =>
    rw [ofNumber]
    split_ifs <;> decide
  | float x =>
    rw [ofNumber]
    decide

theorem idx_injective {s t : Scalar} (hs : s ∈ numeric)
    (h : numeric.idxOf s = numeric.idxOf t) : s = t :=
  (List.idxOf_inj hs).mp h

/-- Of two numeric types the wider one is kept. -/
theorem widen_numeric : ∀ s ∈ numeric, ∀ t ∈ numeric,
    (s.widen t = s ∨ s.widen t = t) ∧ numeric.idxOf s ≤ numeric.idxOf (s.widen t) ∧
      numeric.idxOf t ≤ numeric.idxOf (s.widen t) := by
  decide

theorem IsWidest.mem_numeric {s : Scalar} {numbers : List Json.Number} (h : IsWidest s numbers) :
    s ∈ numeric := by
  obtain ⟨⟨n, -, rfl⟩, -⟩ := h
  exact of_number_mem n

theorem IsWidest.unique {s t : Scalar} {ms ns : List Json.Number} (hs : IsWidest s ms)
    (ht : IsWidest t ns) (h : ms.Perm ns) : s = t := by
  obtain ⟨⟨m, hm, rfl⟩, hms⟩ := hs
  obtain ⟨⟨n, hn, rfl⟩, hns⟩ := ht
  have hle : numeric.idxOf (ofNumber m) ≤ numeric.idxOf (ofNumber n) :=
    hns m (h.mem_iff.mp hm)
  have hge : numeric.idxOf (ofNumber n) ≤ numeric.idxOf (ofNumber m) :=
    hms n (h.mem_iff.mpr hn)
  exact idx_injective (of_number_mem m) (hle.antisymm hge)

/-! Leaves one by one. -/

mutual
/-- An array shows what its leaves show one after the other. -/
theorem infer_eq (known : Option Scalar) :
    (v : Json.Value) → infer known v = (leaves v).foldl observe known
  | .array items => infer_all_eq known items
  | .null | .bool _ | .number _ | .string _ | .object _ => rfl

theorem infer_all_eq (known : Option Scalar) :
    (vs : List Json.Value) → inferAll known vs = (leavesOf vs).foldl observe known
  | [] => rfl
  | v :: vs => by
    rw [inferAll, leavesOf, List.foldl_append, infer_eq known v]
    exact infer_all_eq _ vs
end

theorem of_samples_eq (samples : List Json.Value) :
    ofSamples? samples = (leavesOf samples).foldl observe none := infer_all_eq none samples

theorem observe_number (s : Scalar) (n : Json.Number) :
    observe (some s) (.number n) = some (s.widen (ofNumber n)) := by
  cases n <;> rfl

theorem observe_hidden {v : Json.Value} (h : ofLeaf? v = none) (known : Option Scalar) :
    observe known v = known := by
  cases known <;> simp only [observe, h]

theorem isShown_iff (v : Json.Value) : isShown v = true ↔ ofLeaf? v ≠ none := by
  cases v with
  | number n => cases n <;> simp [isShown, ofLeaf?]
  | null | bool b | string s | array items | object members => simp [isShown, ofLeaf?]

/-- Only the leaves that show a type are taken note of. -/
theorem fold_observe_shown (known : Option Scalar) (samples : List Json.Value) :
    (leavesOf samples).foldl observe known = (shownLeaves samples).foldl observe known := by
  rw [shownLeaves]
  induction leavesOf samples generalizing known with
  | nil => rfl
  | cons v leaves ih =>
    by_cases hv : ofLeaf? v = none
    · have hhidden : ¬ isShown v = true := fun h => (isShown_iff v).mp h hv
      rw [List.foldl_cons, observe_hidden hv, List.filter_cons_of_neg hhidden, ih]
    · have hshown : isShown v = true := (isShown_iff v).mpr hv
      rw [List.foldl_cons, List.filter_cons_of_pos hshown, List.foldl_cons, ih]

/-- Truth values and texts are never widened. -/
theorem fold_observe_fixed {s : Scalar} (hs : s = bool ∨ s = string) (leaves : List Json.Value) :
    leaves.foldl observe (some s) = some s := by
  induction leaves with
  | nil => rfl
  | cons v leaves ih =>
    have hstep : observe (some s) v = some s := by
      cases hv : ofLeaf? v with
      | none => exact observe_hidden hv _
      | some t =>
        simp only [observe, hv]
        rcases hs with rfl | rfl <;> rfl
    rw [List.foldl_cons, hstep, ih]

/-- A numeric type stays as it is unless a leaf is a number. -/
theorem observe_no_number {s : Scalar} (hs : s ∈ numeric) {v : Json.Value}
    (hv : ∀ n, v ≠ .number n) : observe (some s) v = some s := by
  have hkept : ∀ t ∈ numeric, t.widen bool = t ∧ t.widen string = t := by decide
  cases v with
  | bool b => exact congrArg some (hkept s hs).1
  | string t => exact congrArg some (hkept s hs).2
  | number n => exact absurd rfl (hv n)
  | null | array items | object members => exact observe_hidden rfl _

/-- One more number: the wider type of the two is that of one of the numbers, and the widest. -/
theorem IsWidest.widen_of_number {s : Scalar} {seen : List Json.Number} (h : IsWidest s seen)
    (n : Json.Number) : IsWidest (s.widen (ofNumber n)) (seen ++ [n]) := by
  obtain ⟨hwhich, hold, hnew⟩ := widen_numeric s h.mem_numeric (ofNumber n) (of_number_mem n)
  constructor
  · rcases hwhich with heq | heq
    · obtain ⟨⟨m, hm, hsm⟩, -⟩ := h
      exact ⟨m, List.mem_append_left _ hm, heq.trans hsm⟩
    · exact ⟨n, by simp, heq⟩
  · intro m hm
    rcases List.mem_append.mp hm with hm | hm
    · exact (h.2 m hm).trans hold
    · rw [List.mem_singleton.mp hm]
      exact hnew

theorem numbers_of_other {v : Json.Value} (hv : ∀ n, v ≠ .number n) (leaves : List Json.Value) :
    numbersOf (v :: leaves) = numbersOf leaves := by
  rw [numbersOf, List.filterMap_cons]
  cases v with
  | number n => exact absurd rfl (hv n)
  | null | bool b | string t | array items | object members => rfl

/-- Behind numbers that have been seen the type is the widest one of these and all later ones. -/
theorem fold_observe_widest {s : Scalar} {seen : List Json.Number} (h : IsWidest s seen)
    (leaves : List Json.Value) :
    ∃ t, leaves.foldl observe (some s) = some t ∧ IsWidest t (seen ++ numbersOf leaves) := by
  induction leaves generalizing s seen with
  | nil => exact ⟨s, rfl, by simpa [numbersOf] using h⟩
  | cons v leaves ih =>
    by_cases hv : ∃ n, v = .number n
    · obtain ⟨n, rfl⟩ := hv
      obtain ⟨t, ht, hwidest⟩ := ih (h.widen_of_number n)
      refine ⟨t, ?_, ?_⟩
      · rw [List.foldl_cons, observe_number, ht]
      · rw [List.append_assoc] at hwidest
        exact hwidest
    · have hother : ∀ n, v ≠ .number n := fun n hn => hv ⟨n, hn⟩
      rw [List.foldl_cons, observe_no_number h.mem_numeric hother, numbers_of_other hother]
      exact ih h

/-! The type of samples. -/

theorem resolve_unnamed {element : Option String} (h : element.bind ofName? = none)
    (samples : List Json.Value) :
    resolve element samples = ((shownLeaves samples).foldl observe none).getD int := by
  rw [resolve, h, of_samples_eq, fold_observe_shown]

/-- What the leaves that show a type say of it: the first one its kind, and of a number all of them
how wide it is. -/
structure Fits (s : Scalar) (leaves : List Json.Value) : Prop where
  empty : leaves = [] → s = int
  truth : ∀ b rest, leaves = .bool b :: rest → s = bool
  text : ∀ t rest, leaves = .string t :: rest → s = string
  number : ∀ n rest, leaves = .number n :: rest → IsWidest s (numbersOf leaves)

theorem fits_of_unnamed {element : Option String} (h : element.bind ofName? = none)
    (samples : List Json.Value) : (resolve element samples).Fits (shownLeaves samples) := by
  rw [resolve_unnamed h]
  constructor
  · intro hleaves
    rw [hleaves]
    rfl
  · intro b rest hleaves
    have hfold : rest.foldl observe (some bool) = some bool :=
      fold_observe_fixed (Or.inl rfl) rest
    rw [hleaves, List.foldl_cons]
    exact congrArg (·.getD int) hfold
  · intro t rest hleaves
    have hfold : rest.foldl observe (some string) = some string :=
      fold_observe_fixed (Or.inr rfl) rest
    rw [hleaves, List.foldl_cons]
    exact congrArg (·.getD int) hfold
  · intro n rest hleaves
    have hfirst : observe none (.number n) = some (ofNumber n) := by
      cases n <;> rfl
    have hone : IsWidest (ofNumber n) [n] := by simp [IsWidest]
    obtain ⟨s, hs, hwidest⟩ := fold_observe_widest hone rest
    rw [hleaves, List.foldl_cons, hfirst, hs]
    exact hwidest

theorem of_same_kind {v w : Json.Value} (hv : isShown v = true) (h : v.kind = w.kind) :
    (∃ b c, v = .bool b ∧ w = .bool c) ∨ (∃ t u, v = .string t ∧ w = .string u) ∨
      ∃ m n, v = .number m ∧ w = .number n := by
  cases v <;> cases w <;> simp [isShown, Json.Value.kind] at hv h ⊢

/-- Leaves of one kind fit one type only, in whatever order they stand. -/
theorem Fits.eq_of_one_kind {s t : Scalar} {leaves others : List Json.Value} (hs : s.Fits leaves)
    (ht : t.Fits others) (hshown : ∀ v ∈ leaves, isShown v = true)
    (hkind : ∀ v ∈ leaves, ∀ w ∈ leaves, v.kind = w.kind) (hperm : others.Perm leaves) :
    t = s := by
  cases others with
  | nil =>
    have hnil : leaves = [] := hperm.symm.eq_nil
    rw [ht.empty rfl, hs.empty hnil]
  | cons w front =>
    have hw : w ∈ leaves := hperm.mem_iff.mp List.mem_cons_self
    cases leaves with
    | nil => cases hw
    | cons v rest =>
      have hv : v ∈ v :: rest := List.mem_cons_self
      -- both lists begin with the same kind of leaf
      obtain ⟨b, c, rfl, rfl⟩ | ⟨b, c, rfl, rfl⟩ | ⟨m, n, rfl, rfl⟩ :=
        of_same_kind (hshown v hv) (hkind v hv w hw)
      · rw [ht.truth c front rfl, hs.truth b rest rfl]
      · rw [ht.text c front rfl, hs.text b rest rfl]
      · have hnumbers : (numbersOf (.number n :: front)).Perm (numbersOf (.number m :: rest)) :=
          hperm.filterMap _
        exact (ht.number n front rfl).unique (hs.number m rest rfl) hnumbers

/-- A type name that is known decides the type. Otherwise the samples do by the leaves that show a
type; if these are of one kind, then neither their order nor their nesting matters. -/
theorem resolve_fits_leaves (element : Option String) (samples : List Json.Value) :
    (∀ s, element.bind ofName? = some s → resolve element samples = s) ∧
      (element.bind ofName? = none → (resolve element samples).Fits (shownLeaves samples)) ∧
      ((∀ v ∈ shownLeaves samples, ∀ w ∈ shownLeaves samples, v.kind = w.kind) →
        ∀ others, (shownLeaves others).Perm (shownLeaves samples) →
          resolve element others = resolve element samples) := by
  have hnamed (s : Scalar) (h : element.bind ofName? = some s) (samples : List Json.Value) :
      resolve element samples = s := by
    rw [resolve, h]
  refine ⟨fun s hs => hnamed s hs samples, fun hnone => fits_of_unnamed hnone samples, ?_⟩
  intro hkind others hperm
  cases helement : element.bind ofName? with
  | some s => rw [hnamed s helement others, hnamed s helement samples]
  | none =>
    have hshown : ∀ v ∈ shownLeaves samples, isShown v = true := by
      intro v hv
      exact (List.mem_filter.mp hv).2
    exact (fits_of_unnamed helement samples).eq_of_one_kind (fits_of_unnamed helement others)
      hshown hkind hperm

/-- Numbers next to leaves of every other kind. -/
def mixedLeaves : List Json.Value :=
  [.object [("n", .number (.float .zero))], .array [.null, .number (.int 1), .array []],
    .string "two", .array [.array [.number (.int 3000000000)], .bool true]]

theorem resolve_fits_mixed_leaves :
    resolve (some " Integer ") mixedLeaves = int ∧
      (resolve (some "days") mixedLeaves).Fits (shownLeaves mixedLeaves) ∧
      resolve (some "days") mixedLeaves = long ∧
      resolve none [.number (.int 7), .array [.number (.float .zero)]] =
        resolve none [.array [.array [.number (.float .zero), .null], .number (.int 7)]] := by
  have hinteger : (some " Integer ").bind ofName? = some int := by decide
  have hunknown : (some "days").bind ofName? = none := by decide
  have hkind :
      ∀ v ∈ shownLeaves [.array [.array [.number (.float .zero), .null], .number (.int 7)]],
      ∀ w ∈ shownLeaves [.array [.array [.number (.float .zero), .null], .number (.int 7)]],
        v.kind = w.kind := by
    simp [shownLeaves, leavesOf, leaves, isShown, Json.Value.kind]
  refine ⟨(resolve_fits_leaves _ _).1 int hinteger, (resolve_fits_leaves _ _).2.1 hunknown, ?_, ?_⟩
  · rw [resolve, hunknown]
    decide
  · exact (resolve_fits_leaves none _).2.2 hkind _ (List.Perm.swap _ _ _)

end CodeJudge.Scalar
