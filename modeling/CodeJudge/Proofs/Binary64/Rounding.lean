import CodeJudge.Binary64.Shortest
import Mathlib.Algebra.Order.Field.Power
import Mathlib.Tactic
/-!
Rounding to the nearest number. A ratio has an exponent at which 53 bits stand before the point, or
the least exponent there is, and is rounded to a natural number in units of it. Both are determined
by where the ratio lies, so every ratio in the span of a number is rounded to that number.
-/
namespace CodeJudge.Binary64

theorem two_zpow_pos (e : Int) : (0 : ℚ) < 2 ^ e := zpow_pos (by norm_num) e

theorem two_zpow_add (e f : Int) : (2 : ℚ) ^ (e + f) = 2 ^ e * 2 ^ f := zpow_add₀ (by norm_num) e f

/-! Units. -/

theorem in_units_pos (num : Nat) {den : Nat} (hden : 0 < den) (e : Int) :
    0 < (inUnits num den e).2 := by
  rw [inUnits]
  split_ifs
  · rw [Nat.shiftLeft_eq]
    positivity
  · exact hden

theorem in_units_ratio (num den : Nat) (e : Int) :
    ((inUnits num den e).1 : ℚ) / (inUnits num den e).2 = num / den / 2 ^ e := by
  rw [inUnits]
  split_ifs with he
  · obtain ⟨k, rfl⟩ := Int.eq_ofNat_of_zero_le he
    simp only [Int.toNat_natCast, Nat.shiftLeft_eq, Nat.cast_mul, Nat.cast_pow, Nat.cast_ofNat,
      zpow_natCast, div_div]
  · obtain ⟨k, hk⟩ := Int.eq_ofNat_of_zero_le (show 0 ≤ -e by omega)
    obtain rfl : e = -k := by omega
    simp only [neg_neg, Int.toNat_natCast, Nat.shiftLeft_eq, Nat.cast_mul, Nat.cast_pow,
      Nat.cast_ofNat, zpow_neg, zpow_natCast, div_inv_eq_mul]
    ring

/-! The nearest natural number. -/

/-- A ratio is nearest to a natural number: it is within a half of it, or at a half if the number
is even. -/
structure IsNearest (v : ℚ) (k : Nat) : Prop where
  low : (k : ℚ) - 1 / 2 ≤ v
  high : v ≤ k + 1 / 2
  odd : k % 2 = 1 → (k : ℚ) - 1 / 2 < v ∧ v < k + 1 / 2

theorem IsNearest.le {v : ℚ} {j k : Nat} (hj : IsNearest v j) (hk : IsNearest v k) : k ≤ j := by
  by_contra! hlt
  have hnext : (j : ℚ) + 1 ≤ k := by exact_mod_cast hlt
  have hhalf : (j : ℚ) + 1 = k := by linarith [hj.high, hk.low]
  have hsucc : k = j + 1 := by exact_mod_cast hhalf.symm
  -- the half between two neighbours is nearest to the even one only
  rcases Nat.mod_two_eq_zero_or_one j with heven | hodd
  · linarith [hj.high, (hk.odd (by omega)).1]
  · linarith [(hj.odd hodd).2, hk.low]

theorem IsNearest.unique {v : ℚ} {j k : Nat} (hj : IsNearest v j) (hk : IsNearest v k) : j = k :=
  Nat.le_antisymm (hk.le hj) (hj.le hk)

/-- Down if the rest is less than a half, up if it is more, and at a half to the even one. -/
theorem round_div_cases (num den : Nat) :
    (roundDiv num den = num / den ∧ 2 * (num % den) ≤ den ∧
        (2 * (num % den) = den → num / den % 2 = 0)) ∨
      (roundDiv num den = num / den + 1 ∧ den ≤ 2 * (num % den) ∧
        (2 * (num % den) = den → num / den % 2 = 1)) := by
  simp only [roundDiv, Bool.or_eq_true, Bool.and_eq_true, decide_eq_true_eq, beq_iff_eq]
  split_ifs with hup
  · exact Or.inr ⟨rfl, by omega, by omega⟩
  · exact Or.inl ⟨rfl, by omega, by omega⟩

theorem is_nearest_round_div {num den : Nat} (hden : 0 < den) :
    IsNearest (num / den) (roundDiv num den) := by
  have hpos : (0 : ℚ) < den := by exact_mod_cast hden
  -- the quotient with its rest as a fraction
  have hratio : (num : ℚ) / den = (num / den : ℕ) + (num % den : ℕ) / den := by
    have hdivision : (den : ℚ) * (num / den : ℕ) + (num % den : ℕ) = num := by
      exact_mod_cast Nat.div_add_mod num den
    rw [← mul_div_cancel_left₀ ((num / den : ℕ) : ℚ) hpos.ne', ← add_div, hdivision]
  have hrest : (0 : ℚ) ≤ (num % den : ℕ) / den := by positivity
  have hone : ((num % den : ℕ) : ℚ) / den < 1 := by
    rw [div_lt_one hpos]
    exact_mod_cast Nat.mod_lt num hden
  have hle : ((num % den : ℕ) : ℚ) / den ≤ 1 / 2 ↔ 2 * (num % den) ≤ den := by
    rw [div_le_div_iff₀ hpos two_pos, one_mul, mul_comm]
    exact_mod_cast Iff.rfl
  have hge : (1 : ℚ) / 2 ≤ (num % den : ℕ) / den ↔ den ≤ 2 * (num % den) := by
    rw [div_le_div_iff₀ two_pos hpos, one_mul, mul_comm]
    exact_mod_cast Iff.rfl
  rcases round_div_cases num den with ⟨hk, hdown, htie⟩ | ⟨hk, hup, htie⟩
  · have hhalf := hle.mpr hdown
    rw [hk]
    refine ⟨by linarith, by linarith, fun hodd => ⟨by linarith, ?_⟩⟩
    have hless : ((num % den : ℕ) : ℚ) / den < 1 / 2 := by
      rw [← not_le, hge]
      omega
    linarith
  · have hhalf := hge.mpr hup
    have hsucc : ((num / den + 1 : ℕ) : ℚ) = (num / den : ℕ) + 1 := Nat.cast_succ _
    rw [hk]
    refine ⟨by linarith, by linarith, fun hodd => ⟨?_, by linarith⟩⟩
    have hmore : (1 : ℚ) / 2 < (num % den : ℕ) / den := by
      rw [← not_le, hle]
      omega
    linarith

/-! The exponent. -/

/-- At the exponent a ratio has 53 bits before the point; at the least one it may have fewer. -/
structure IsExponent (v : ℚ) (e : Int) : Prop where
  least : leastExponent ≤ e
  high : v < 2 ^ 53 * 2 ^ e
  low : 2 ^ 52 * 2 ^ e ≤ v ∨ e = leastExponent

theorem IsExponent.le {v : ℚ} {e f : Int} (he : IsExponent v e) (hf : IsExponent v f) : e ≤ f := by
  rcases he.low with hlow | hleast
  · by_contra! hlt
    have hpow : (2 : ℚ) ^ (f + 1) ≤ 2 ^ e := zpow_le_zpow_right₀ one_le_two hlt
    rw [two_zpow_add, zpow_one] at hpow
    linarith [hf.high]
  · rw [hleast]
    exact hf.least

theorem IsExponent.unique {v : ℚ} {e f : Int} (he : IsExponent v e) (hf : IsExponent v f) : e = f :=
  le_antisymm (he.le hf) (hf.le he)

/-- A ratio of numbers whose logarithms differ by `k` lies within a factor of two of `2 ^ k`. -/
theorem ratio_log2 {num den : Nat} (hnum : num ≠ 0) (hden : den ≠ 0) :
    (2 : ℚ) ^ ((num.log2 : Int) - den.log2 - 1) < num / den ∧
      (num : ℚ) / den < 2 ^ ((num.log2 : Int) - den.log2 + 1) := by
  have hpos : (0 : ℚ) < den := by exact_mod_cast Nat.pos_of_ne_zero hden
  have hnumLow : (2 : ℚ) ^ (num.log2 : Int) ≤ num := by exact_mod_cast Nat.log2_self_le hnum
  have hnumHigh : (num : ℚ) < 2 ^ ((num.log2 : Int) + 1) := by
    exact_mod_cast (Nat.lt_log2_self : num < 2 ^ (num.log2 + 1))
  have hdenLow : (2 : ℚ) ^ (den.log2 : Int) ≤ den := by exact_mod_cast Nat.log2_self_le hden
  have hdenHigh : (den : ℚ) < 2 ^ ((den.log2 : Int) + 1) := by
    exact_mod_cast (Nat.lt_log2_self : den < 2 ^ (den.log2 + 1))
  constructor
  · rw [lt_div_iff₀ hpos]
    calc (2 : ℚ) ^ ((num.log2 : Int) - den.log2 - 1) * den
        < 2 ^ ((num.log2 : Int) - den.log2 - 1) * 2 ^ ((den.log2 : Int) + 1) :=
          mul_lt_mul_of_pos_left hdenHigh (two_zpow_pos _)
      _ = 2 ^ (num.log2 : Int) := by
          rw [← two_zpow_add]
          congr 1
          ring
      _ ≤ num := hnumLow
  · rw [div_lt_iff₀ hpos]
    calc (num : ℚ) < 2 ^ ((num.log2 : Int) + 1) := hnumHigh
      _ = 2 ^ ((num.log2 : Int) - den.log2 + 1) * 2 ^ (den.log2 : Int) := by
          rw [← two_zpow_add]
          congr 1
          ring
      _ ≤ 2 ^ ((num.log2 : Int) - den.log2 + 1) * den :=
          mul_le_mul_of_nonneg_left hdenLow (two_zpow_pos _).le

theorem is_exponent_max {v : ℚ} {e : Int} (hlow : 2 ^ 52 * 2 ^ e ≤ v)
    (hhigh : v < 2 ^ 53 * 2 ^ e) : IsExponent v (max leastExponent e) := by
  rcases le_total leastExponent e with hle | hle
  · rw [max_eq_right hle]
    exact ⟨hle, hhigh, Or.inl hlow⟩
  · rw [max_eq_left hle]
    have hpow : (2 : ℚ) ^ e ≤ 2 ^ leastExponent := zpow_le_zpow_right₀ one_le_two hle
    exact ⟨le_rfl, by linarith, Or.inr rfl⟩

/-- In units of a first guess a ratio has 53 bits before the point, or one fewer. -/
theorem is_exponent_exponent_for {num den : Nat} (hnum : num ≠ 0) (hden : 0 < den) :
    IsExponent (num / den) (exponentFor num den) := by
  obtain ⟨hlow, hhigh⟩ := ratio_log2 hnum hden.ne'
  have hratio := in_units_ratio num den (num.log2 - den.log2 - 52)
  have hunits := in_units_pos num hden (num.log2 - den.log2 - 52)
  rw [exponentFor]
  dsimp only
  generalize hguess : (num.log2 : Int) - den.log2 - 52 = guess at hratio hunits ⊢
  have hpow := two_zpow_pos guess
  rw [show (num.log2 : Int) - den.log2 - 1 = 51 + guess by omega, two_zpow_add] at hlow
  rw [show (num.log2 : Int) - den.log2 + 1 = 53 + guess by omega, two_zpow_add] at hhigh
  have hfewer : (inUnits num den guess).1 / (inUnits num den guess).2 < 1 <<< 52 ↔
      (num : ℚ) / den < 2 ^ 52 * 2 ^ guess := by
    have hpos : (0 : ℚ) < (inUnits num den guess).2 := by exact_mod_cast hunits
    rw [Nat.div_lt_iff_lt_mul hunits, ← div_lt_iff₀ hpow, ← hratio, div_lt_iff₀ hpos]
    exact_mod_cast Iff.rfl
  split_ifs with h
  · rw [hfewer] at h
    have hhalf : (2 : ℚ) ^ (guess - 1) = 2 ^ guess * 2⁻¹ := zpow_sub_one₀ two_ne_zero guess
    exact is_exponent_max (by linarith) (by linarith)
  · rw [hfewer, not_lt] at h
    exact is_exponent_max h (by linarith)

/-! The nearest number. -/

/-- A number of units of `2 ^ e`, of at most 53 bits or one more than that. -/
def ofUnits (negative : Bool) (k : Nat) (e : Int) : Binary64 :=
  if k = 1 <<< 53 then
    if greatestExponent < e + 1 then .infinite negative else .finite negative (1 <<< 52) (e + 1)
  else if greatestExponent < e then .infinite negative else .finite negative k e

theorem is_nearest_in_units (num : Nat) {den : Nat} (hden : 0 < den) (e : Int) :
    IsNearest ((num : ℚ) / den / 2 ^ e)
      (roundDiv (inUnits num den e).1 (inUnits num den e).2) := by
  rw [← in_units_ratio]
  exact is_nearest_round_div (in_units_pos num hden e)

/-- A ratio is rounded to the number of units of its exponent that it is nearest to. -/
theorem of_ratio_eq (negative : Bool) {num den k : Nat} {e : Int} (hnum : num ≠ 0) (hden : 0 < den)
    (he : IsExponent (num / den) e) (hk : IsNearest (num / den / 2 ^ e) k) :
    ofRatio negative num den = ofUnits negative k e := by
  obtain rfl := (is_exponent_exponent_for hnum hden).unique he
  obtain rfl := (is_nearest_in_units num hden _).unique hk
  rw [ofRatio, if_neg hnum, ofUnits]
  dsimp only
  split_ifs <;> rfl

/-- What a ratio is nearest to has 53 bits or is one more than that. -/
theorem IsNearest.bounds {v : ℚ} {e : Int} {k : Nat} (he : IsExponent v e)
    (hk : IsNearest (v / 2 ^ e) k) : k ≤ 2 ^ 53 ∧ (2 ^ 52 ≤ k ∨ e = leastExponent) := by
  have hpow := two_zpow_pos e
  have hhigh : v / 2 ^ e < 2 ^ 53 := (div_lt_iff₀ hpow).mpr he.high
  constructor
  · have hlt : (k : ℚ) < 2 ^ 53 + 1 := by linarith [hk.low]
    exact Nat.lt_succ_iff.mp (by exact_mod_cast hlt)
  · apply he.low.imp_left
    intro hlow
    have hge : (2 : ℚ) ^ 52 ≤ v / 2 ^ e := (le_div_iff₀ hpow).mpr hlow
    have hlt : (2 : ℚ) ^ 52 < k + 1 := by linarith [hk.high]
    exact Nat.lt_succ_iff.mp (by exact_mod_cast hlt)

theorem of_units_canonical (negative : Bool) {k : Nat} {e : Int} (hleast : leastExponent ≤ e)
    (hk : k ≤ 2 ^ 53) (hlow : 2 ^ 52 ≤ k ∨ e = leastExponent) :
    (ofUnits negative k e).Canonical := by
  have h52 : (1 <<< 52 : Nat) = 2 ^ 52 := rfl
  have h53 : (1 <<< 53 : Nat) = 2 ^ 53 := rfl
  rw [ofUnits]
  split_ifs with hcarry hlarge hlarge
  · trivial
  · exact ⟨by decide, by omega, by omega, Or.inl le_rfl⟩
  · trivial
  · exact ⟨by omega, hleast, by omega, by rwa [h52]⟩

theorem zero_canonical (negative : Bool) : (finite negative 0 leastExponent).Canonical :=
  ⟨by decide, le_rfl, by decide, Or.inr rfl⟩

theorem of_ratio_canonical (negative : Bool) (num : Nat) {den : Nat} (hden : 0 < den) :
    (ofRatio negative num den).Canonical := by
  by_cases hnum : num = 0
  · rw [ofRatio, if_pos hnum]
    exact zero_canonical negative
  · have he := is_exponent_exponent_for hnum hden
    have hk := is_nearest_in_units num hden (exponentFor num den)
    obtain ⟨hhigh, hlow⟩ := hk.bounds he
    rw [of_ratio_eq negative hnum hden he hk]
    exact of_units_canonical negative he.least hhigh hlow

/-! Spans. -/

/-- A ratio lies in a span, at a bound only if the span is closed. -/
structure Span.Holds (s : Span) (v : ℚ) : Prop where
  low : s.low * 2 ^ s.exponent ≤ v
  high : v ≤ s.high * 2 ^ s.exponent
  strict : s.closed = false → s.low * 2 ^ s.exponent < v ∧ v < s.high * 2 ^ s.exponent

section Around

variable {m : Nat} {e : Int} {v : ℚ}

theorem reach_le (m : Nat) (e : Int) :
    (if m = 1 <<< 52 ∧ leastExponent < e then 1 / 4 else 1 / 2 : ℚ) ≤ 1 / 2 := by
  split_ifs <;> norm_num

/-- In units of the last place the span of a number reaches half a unit up and half a unit down, for
a power of two only a quarter down. -/
theorem units_of_holds (hm : 0 < m) (hv : (Span.around m e).Holds v) :
    let reach : ℚ := if m = 1 <<< 52 ∧ leastExponent < e then 1 / 4 else 1 / 2
    m - reach ≤ v / 2 ^ e ∧ v / 2 ^ e ≤ m + 1 / 2 ∧
      (m % 2 = 1 → m - reach < v / 2 ^ e ∧ v / 2 ^ e < m + 1 / 2) := by
  have hpow := two_zpow_pos e
  -- the bounds of a span are counted in quarters of the last place
  have hquarter : (2 : ℚ) ^ (Span.around m e).exponent = 2 ^ e / 4 := by
    rw [Span.around, zpow_sub₀ two_ne_zero]
    norm_num
  have hlow : (Span.around m e).low * (2 : ℚ) ^ (Span.around m e).exponent =
      (m - if m = 1 <<< 52 ∧ leastExponent < e then 1 / 4 else 1 / 2) * 2 ^ e := by
    rw [hquarter, Span.around]
    dsimp only
    split_ifs
    all_goals
      rw [Nat.cast_sub (by omega)]
      push_cast
      ring
  have hhigh : (Span.around m e).high * (2 : ℚ) ^ (Span.around m e).exponent =
      (m + 1 / 2) * 2 ^ e := by
    rw [hquarter, Span.around]
    push_cast
    ring
  obtain ⟨hge, hle, hstrict⟩ := hv
  rw [hlow] at hge hstrict
  rw [hhigh] at hle hstrict
  refine ⟨(le_div_iff₀ hpow).mpr hge, (div_le_iff₀ hpow).mpr hle, fun hodd => ?_⟩
  have hopen : (Span.around m e).closed = false := by simp [Span.around, hodd]
  exact ⟨(lt_div_iff₀ hpow).mpr (hstrict hopen).1, (div_lt_iff₀ hpow).mpr (hstrict hopen).2⟩

/-- Wherever a ratio lies in the span of a number, it is within half a unit of the last place. -/
theorem half_of_holds (hm : 0 < m) (hv : (Span.around m e).Holds v) :
    m - 1 / 2 ≤ v / 2 ^ e ∧ v / 2 ^ e ≤ m + 1 / 2 := by
  obtain ⟨hlow, hhigh, -⟩ := units_of_holds hm hv
  have hreach := reach_le m e
  exact ⟨by linarith, hhigh⟩

/-- Below a power of two the units are finer, and what is nearest to it carries. -/
theorem of_ratio_below_power {negative : Bool} {num den : Nat} (hnum : num ≠ 0) (hden : 0 < den)
    (hleast : leastExponent < e) (hgreatest : e ≤ greatestExponent)
    (hlow : 2 ^ 52 - 1 / 4 ≤ (num : ℚ) / den / 2 ^ e)
    (hhigh : (num : ℚ) / den / 2 ^ e < 2 ^ 52) :
    ofRatio negative num den = .finite negative (1 <<< 52) e := by
  have hpow := two_zpow_pos (e - 1)
  have hfiner : (2 : ℚ) ^ e = 2 * 2 ^ (e - 1) := by
    rw [← zpow_one_add₀ two_ne_zero]
    congr 1
    ring
  rw [hfiner, ← div_div, div_right_comm] at hlow hhigh
  have hunits : (num : ℚ) / den / 2 ^ (e - 1) < 2 ^ 53 := by linarith
  have hexponent : IsExponent ((num : ℚ) / den) (e - 1) := by
    refine ⟨by omega, (div_lt_iff₀ hpow).mp hunits, Or.inl ?_⟩
    rw [← le_div_iff₀ hpow]
    linarith
  have hnearest : IsNearest ((num : ℚ) / den / 2 ^ (e - 1)) (1 <<< 53) := by
    have hcast : ((1 <<< 53 : ℕ) : ℚ) = 2 ^ 53 := by
      rw [Nat.one_shiftLeft]
      norm_cast
    refine ⟨by linarith, by linarith, fun hodd => absurd hodd (by decide)⟩
  rw [of_ratio_eq negative hnum hden hexponent hnearest, ofUnits, if_pos rfl, sub_add_cancel,
    if_neg (by omega)]

/-- The exponent of a number is that of its span, but for the finer units below a power of two. -/
theorem is_exponent_of_holds {negative : Bool} (hm : 0 < m)
    (hcanonical : (finite negative m e).Canonical) (hv : (Span.around m e).Holds v)
    (hcoarse : ¬ ((m = 1 <<< 52 ∧ leastExponent < e) ∧ v / 2 ^ e < 2 ^ 52)) : IsExponent v e := by
  obtain ⟨hbits, hleast, -, hnormal⟩ := hcanonical
  have hpow := two_zpow_pos e
  obtain ⟨hlow, hhigh⟩ := half_of_holds hm hv
  have htop : (m : ℚ) + 1 ≤ 2 ^ 53 := by exact_mod_cast hbits
  have hbelow : v / 2 ^ e < 2 ^ 53 := by linarith
  have habove : 2 ^ 52 ≤ v / 2 ^ e ∨ e = leastExponent := by
    rcases hnormal with hnormal | hsmall
    · rcases hnormal.eq_or_lt with hbit | hmore
      · by_cases hfiner : leastExponent < e
        · exact Or.inl (not_lt.mp fun hunder => hcoarse ⟨⟨hbit.symm, hfiner⟩, hunder⟩)
        · exact Or.inr (by omega)
      · -- half a unit down is not below the power of two
        have hmoreCast : (2 : ℚ) ^ 52 + 1 ≤ m := by exact_mod_cast hmore
        exact Or.inl (by linarith)
    · exact Or.inr hsmall
  exact ⟨hleast, (div_lt_iff₀ hpow).mp hbelow, habove.imp_left (le_div_iff₀ hpow).mp⟩

/-- A ratio in the span of a number is rounded to the number. -/
theorem of_ratio_of_holds {negative : Bool} {num den : Nat} (hden : 0 < den) (hm : 0 < m)
    (hcanonical : (finite negative m e).Canonical) (hv : (Span.around m e).Holds (num / den)) :
    ofRatio negative num den = .finite negative m e := by
  obtain ⟨hlow, hhigh, hodd⟩ := units_of_holds hm hv
  obtain ⟨hhalf, -⟩ := half_of_holds hm hv
  have hnum : num ≠ 0 := by
    rintro rfl
    have hone : (1 : ℚ) ≤ m := by exact_mod_cast hm
    rw [Nat.cast_zero, zero_div, zero_div] at hhalf
    linarith
  by_cases hpower : (m = 1 <<< 52 ∧ leastExponent < e) ∧ (num : ℚ) / den / 2 ^ e < 2 ^ 52
  · -- the quarter below a power of two is rounded in units of half the size
    obtain ⟨⟨hbit, hfiner⟩, hbelow⟩ := hpower
    rw [if_pos ⟨hbit, hfiner⟩] at hlow
    have hcast : (m : ℚ) = 2 ^ 52 := by
      rw [hbit, Nat.one_shiftLeft]
      norm_cast
    rw [hbit]
    exact of_ratio_below_power hnum hden hfiner hcanonical.2.2.1 (by linarith) hbelow
  · have hexponent := is_exponent_of_holds hm hcanonical hv hpower
    obtain ⟨hbits, -, hgreatest, -⟩ := hcanonical
    have hnearest : IsNearest ((num : ℚ) / den / 2 ^ e) m := by
      refine ⟨hhalf, hhigh, fun h => ⟨?_, (hodd h).2⟩⟩
      have hreach := reach_le m e
      linarith [(hodd h).1]
    rw [of_ratio_eq negative hnum hden hexponent hnearest, ofUnits, if_neg (by omega),
      if_neg (by omega)]

/-- The span of a number lies between a half of the smallest step and the sum of the greatest
number and such a half. -/
theorem holds_bounds {negative : Bool} (hm : 0 < m)
    (hcanonical : (finite negative m e).Canonical) (hv : (Span.around m e).Holds v) :
    (2 : ℚ) ^ (leastExponent - 1) ≤ v ∧ v < 2 ^ (greatestExponent + 53) := by
  obtain ⟨hbits, hleast, hgreatest, -⟩ := hcanonical
  have hpow := two_zpow_pos e
  obtain ⟨hlow, hhigh⟩ := half_of_holds hm hv
  have hone : (1 : ℚ) ≤ m := by exact_mod_cast hm
  have htop : (m : ℚ) + 1 ≤ 2 ^ 53 := by exact_mod_cast hbits
  have htwo : (1 : ℚ) ≤ 2 := one_le_two
  constructor
  · calc (2 : ℚ) ^ (leastExponent - 1) = 2 ^ leastExponent / 2 := zpow_sub_one₀ two_ne_zero _
      _ ≤ 1 / 2 * 2 ^ e := by linarith [zpow_le_zpow_right₀ htwo hleast]
      _ ≤ v := by
        rw [← le_div_iff₀ hpow]
        linarith
  · calc v < 2 ^ 53 * 2 ^ e := by
          rw [← div_lt_iff₀ hpow]
          linarith
      _ ≤ 2 ^ 53 * 2 ^ greatestExponent := by
        linarith [zpow_le_zpow_right₀ htwo hgreatest]
      _ = 2 ^ (greatestExponent + 53) := by
        rw [two_zpow_add, mul_comm]
        norm_cast

end Around

/-! Decimals. -/

section Decimals

variable {digits : Nat}

theorem ten_zpow_pos (e : Int) : (0 : ℚ) < 10 ^ e := zpow_pos (by norm_num) e

/-- A number lies between the powers of ten at its first digit and in front of it. -/
theorem length_digits_bounds (hdigits : digits ≠ 0) :
    10 ^ ((Nat.toDigits 10 digits).length - 1) ≤ digits ∧
      digits < 10 ^ (Nat.toDigits 10 digits).length := by
  have hpos : 0 < (Nat.toDigits 10 digits).length := Nat.length_toDigits_pos
  refine ⟨?_, (Nat.length_toDigits_le_iff (by decide) hpos).mp le_rfl⟩
  by_contra! hlt
  rcases Nat.eq_zero_or_pos ((Nat.toDigits 10 digits).length - 1) with hzero | hmore
  · rw [hzero, pow_zero] at hlt
    omega
  · have hle := (Nat.length_toDigits_le_iff (by decide) hmore).mpr hlt
    omega

theorem decimal_bounds (hdigits : digits ≠ 0) (exponent : Int) :
    let magnitude := exponent + (Nat.toDigits 10 digits).length
    (10 : ℚ) ^ (magnitude - 1) ≤ digits * 10 ^ exponent ∧
      digits * 10 ^ exponent < (10 : ℚ) ^ magnitude := by
  have hpow := ten_zpow_pos exponent
  have hpos : 0 < (Nat.toDigits 10 digits).length := Nat.length_toDigits_pos
  obtain ⟨hlow, hhigh⟩ := length_digits_bounds hdigits
  constructor
  · have hsplit : exponent + ((Nat.toDigits 10 digits).length : Int) - 1 =
        (((Nat.toDigits 10 digits).length - 1 : ℕ) : Int) + exponent := by omega
    rw [hsplit, zpow_add₀ (by norm_num), zpow_natCast]
    exact mul_le_mul_of_nonneg_right (by exact_mod_cast hlow) hpow.le
  · rw [add_comm, zpow_add₀ (by norm_num), zpow_natCast]
    exact mul_lt_mul_of_pos_right (by exact_mod_cast hhigh) hpow

/-- A decimal that is not out of range at once is rounded as a ratio. -/
theorem exists_ratio_of_decimal (negative : Bool) (hdigits : digits ≠ 0) {exponent : Int}
    (hlow : -330 ≤ exponent + (Nat.toDigits 10 digits).length)
    (hhigh : exponent + (Nat.toDigits 10 digits).length ≤ 310) :
    ∃ num den : Nat, 0 < den ∧ (num : ℚ) / den = digits * 10 ^ exponent ∧
      ofDecimal negative digits exponent = ofRatio negative num den := by
  have hsmall : ¬ (decide (digits = 0) ||
      decide (exponent + (Nat.toDigits 10 digits).length < -330)) = true := by
    simp only [Bool.or_eq_true, decide_eq_true_eq]
    omega
  rw [ofDecimal, if_neg hsmall, if_neg (by omega)]
  split_ifs with hexponent
  · obtain ⟨k, rfl⟩ := Int.eq_ofNat_of_zero_le hexponent
    exact ⟨digits * 10 ^ k, 1, one_pos, by push_cast; simp, rfl⟩
  · obtain ⟨k, hk⟩ := Int.eq_ofNat_of_zero_le (show 0 ≤ -exponent by omega)
    obtain rfl : exponent = -k := by omega
    refine ⟨digits, 10 ^ k, by positivity, ?_, ?_⟩
    · rw [zpow_neg, zpow_natCast, div_eq_mul_inv]
      norm_cast
    · rw [neg_neg, Int.toNat_natCast]
      rfl

theorem of_decimal_canonical (negative : Bool) (digits : Nat) (exponent : Int) :
    (ofDecimal negative digits exponent).Canonical := by
  rw [ofDecimal]
  split_ifs with hsmall hlarge hexponent
  · exact zero_canonical negative
  · trivial
  · exact of_ratio_canonical negative _ one_pos
  · exact of_ratio_canonical negative _ (Nat.pow_pos (by decide))

/-- What is out of range at once is too small or too large for every span. -/
theorem magnitude_bounds (hdigits : digits ≠ 0) {exponent : Int}
    (hleast : (2 : ℚ) ^ (leastExponent - 1) ≤ digits * 10 ^ exponent)
    (hgreatest : digits * (10 : ℚ) ^ exponent < 2 ^ (greatestExponent + 53)) :
    -330 ≤ exponent + (Nat.toDigits 10 digits).length ∧
      exponent + (Nat.toDigits 10 digits).length ≤ 310 := by
  obtain ⟨hlow, hhigh⟩ := decimal_bounds hdigits exponent
  have hten : (1 : ℚ) ≤ 10 := by norm_num
  constructor
  · by_contra! hlt
    -- below ten to the minus 331 everything is below half of the least number
    have hpowers : (2 : ℚ) ^ 1075 ≤ 10 ^ 331 := by
      exact_mod_cast (by decide +kernel : 2 ^ 1075 ≤ 10 ^ 331)
    have hunder : (10 : ℚ) ^ (-(331 : ℕ) : Int) ≤ 2 ^ (-(1075 : ℕ) : Int) := by
      rw [zpow_neg, zpow_neg, zpow_natCast, zpow_natCast]
      exact inv_anti₀ (by positivity) hpowers
    have hmagnitude := zpow_le_zpow_right₀ hten
      (show exponent + (Nat.toDigits 10 digits).length ≤ (-(331 : ℕ) : Int) by omega)
    exact absurd (hhigh.trans_le (hmagnitude.trans hunder)) hleast.not_gt
  · by_contra! hlt
    -- from ten to the 310 on everything is above the greatest number
    have hpowers : (2 : ℚ) ^ 1024 ≤ 10 ^ 310 := by
      exact_mod_cast (by decide +kernel : 2 ^ 1024 ≤ 10 ^ 310)
    have hmagnitude := zpow_le_zpow_right₀ hten
      (show ((310 : ℕ) : Int) ≤ exponent + (Nat.toDigits 10 digits).length - 1 by omega)
    rw [zpow_natCast] at hmagnitude
    have hover : (2 : ℚ) ^ (greatestExponent + 53) ≤ digits * 10 ^ exponent :=
      (hpowers.trans hmagnitude).trans hlow
    exact absurd hgreatest hover.not_gt

/-- A decimal in the span of a number is rounded to the number. -/
theorem of_decimal_of_holds {negative : Bool} {exponent : Int} {m : Nat} {e : Int} (hm : 0 < m)
    (hcanonical : (finite negative m e).Canonical)
    (hv : (Span.around m e).Holds (digits * 10 ^ exponent)) :
    ofDecimal negative digits exponent = .finite negative m e := by
  obtain ⟨hleast, hgreatest⟩ := holds_bounds hm hcanonical hv
  have hdigits : digits ≠ 0 := by
    rintro rfl
    rw [Nat.cast_zero, zero_mul] at hleast
    exact absurd hleast (two_zpow_pos _).not_ge
  obtain ⟨hsmall, hlarge⟩ := magnitude_bounds hdigits hleast hgreatest
  obtain ⟨num, den, hden, hratio, hrounded⟩ :=
    exists_ratio_of_decimal negative hdigits hsmall hlarge
  rw [← hratio] at hv
  rw [hrounded]
  exact of_ratio_of_holds hden hm hcanonical hv

end Decimals

end CodeJudge.Binary64
