import CodeJudge.Proofs.Binary64.Rounding
/-!
The shortest decimal. A decimal on a grid of a power of ten is taken only if it lies in the span,
and a grid that is finer than half a unit of the last place has one. The finest grid that is tried
is, so the shortest decimal lies in the span of the number that it was made for.
-/
namespace CodeJudge.Binary64

/-! One grid. -/

namespace Span

/-- A power of ten, as a ratio of natural numbers. -/
def tens (place : Int) : Nat × Nat :=
  if 0 ≤ place then (Nat.pow 10 place.toNat, 1) else (1, Nat.pow 10 (-place).toNat)

theorem tens_ratio (place : Int) :
    0 < (tens place).1 ∧ 0 < (tens place).2 ∧
      ((tens place).1 : ℚ) / (tens place).2 = 10 ^ place := by
  rw [tens]
  split_ifs with hplace
  · obtain ⟨k, rfl⟩ := Int.eq_ofNat_of_zero_le hplace
    exact ⟨Nat.pow_pos (by decide), one_pos, by simp⟩
  · obtain ⟨k, hk⟩ := Int.eq_ofNat_of_zero_le (show 0 ≤ -place by omega)
    obtain rfl : place = -k := by omega
    exact ⟨one_pos, Nat.pow_pos (by decide), by simp⟩

variable (s : Span) (place : Int)

/-- A step of the grid, in units in which the places of the span are whole numbers too. -/
def step : Nat := (tens place).1 * (inUnits 1 1 (-s.exponent)).2

/-- The quarter of the last place in these units. -/
def scale : Nat := (inUnits 1 1 (-s.exponent)).1 * (tens place).2

theorem step_pos : 0 < s.step place :=
  Nat.mul_pos (tens_ratio place).1 (in_units_pos 1 one_pos _)

/-- A multiple of the power of ten is compared to a number of quarters in whole numbers. -/
theorem compare_grid (k n : Nat) :
    (k * s.step place ≤ n * s.scale place ↔ (k : ℚ) * 10 ^ place ≤ n * 2 ^ s.exponent) ∧
      (n * s.scale place ≤ k * s.step place ↔ (n : ℚ) * 2 ^ s.exponent ≤ k * 10 ^ place) := by
  obtain ⟨-, hone, hten⟩ := tens_ratio place
  have hgrid := in_units_pos 1 one_pos (-s.exponent)
  have hunit := in_units_ratio 1 1 (-s.exponent)
  rw [Nat.cast_one, div_one, zpow_neg, one_div, inv_inv] at hunit
  have honeCast : (0 : ℚ) < (tens place).2 := by exact_mod_cast hone
  have hgridCast : (0 : ℚ) < (inUnits 1 1 (-s.exponent)).2 := by exact_mod_cast hgrid
  -- the denominators of both sides are multiplied out
  rw [← hten, ← hunit, mul_div_assoc', mul_div_assoc', div_le_div_iff₀ honeCast hgridCast,
    div_le_div_iff₀ hgridCast honeCast]
  simp only [step, scale, ← mul_assoc]
  constructor <;> norm_cast

/-- The greatest multiple that is not above the number. -/
def below : Nat := s.middle * s.scale place / s.step place

/-- Whether a multiple lies above the lower bound. -/
def reachesLow (k : Nat) : Bool :=
  if s.closed then s.low * s.scale place ≤ k * s.step place
  else s.low * s.scale place < k * s.step place

/-- Whether a multiple lies below the upper bound. -/
def ReachesHigh (k : Nat) : Prop :=
  if s.closed then k * s.step place ≤ s.high * s.scale place
  else k * s.step place < s.high * s.scale place

instance (k : Nat) : Decidable (s.ReachesHigh place k) :=
  inferInstanceAs (Decidable (if s.closed then k * s.step place ≤ s.high * s.scale place
    else k * s.step place < s.high * s.scale place))

/-- Whether the lower one of two neighbours is nearer. -/
def prefersBelow (tie : Tie) : Bool :=
  let toBelow := s.middle * s.scale place - s.below place * s.step place
  let toAbove := (s.below place + 1) * s.step place - s.middle * s.scale place
  toBelow < toAbove ||
    (toBelow == toAbove && (match tie with | .even => s.below place % 2 == 0 | .up => false))

/-- Only the two multiples next to the number are looked at. -/
theorem on_grid_eq (tie : Tie) : s.onGrid tie place =
    let fitsBelow := decide (0 < s.below place) && s.reachesLow place (s.below place)
    let fitsAbove := s.ReachesHigh place (s.below place + 1)
    if fitsBelow && fitsAbove then
      some ⟨if s.prefersBelow place tie then s.below place else s.below place + 1, place⟩
    else if fitsBelow then some ⟨s.below place, place⟩
    else if fitsAbove then some ⟨s.below place + 1, place⟩
    else none := rfl

theorem reaches_low_iff (k : Nat) : s.reachesLow place k = true ↔
    s.low * (2 : ℚ) ^ s.exponent ≤ k * 10 ^ place ∧
      (s.closed = false → s.low * (2 : ℚ) ^ s.exponent < k * 10 ^ place) := by
  obtain ⟨hle, hge⟩ := s.compare_grid place k s.low
  cases hclosed : s.closed with
  | true => simp [reachesLow, hclosed, hge]
  | false =>
    simp only [reachesLow, hclosed, Bool.false_eq_true, if_false, decide_eq_true_eq, true_imp_iff]
    rw [← not_le, hle, not_le]
    exact ⟨fun h => ⟨h.le, h⟩, And.right⟩

theorem reaches_high_iff (k : Nat) : s.ReachesHigh place k ↔
    (k : ℚ) * 10 ^ place ≤ s.high * 2 ^ s.exponent ∧
      (s.closed = false → (k : ℚ) * 10 ^ place < s.high * 2 ^ s.exponent) := by
  obtain ⟨hle, hge⟩ := s.compare_grid place k s.high
  cases hclosed : s.closed with
  | true => simp [ReachesHigh, hclosed, hle]
  | false =>
    simp only [ReachesHigh, hclosed, Bool.false_eq_true, if_false, true_imp_iff]
    rw [← not_le, hge, not_le]
    exact ⟨fun h => ⟨h.le, h⟩, And.right⟩

theorem below_le : (s.below place : ℚ) * 10 ^ place ≤ s.middle * 2 ^ s.exponent :=
  (s.compare_grid place (s.below place) s.middle).1.mp (Nat.div_mul_le_self _ _)

theorem lt_above : s.middle * (2 : ℚ) ^ s.exponent < (s.below place + 1 : ℕ) * 10 ^ place := by
  rw [← not_le, ← (s.compare_grid place (s.below place + 1) s.middle).1, not_le]
  exact Nat.lt_mul_of_div_lt (Nat.lt_succ_self _) (s.step_pos place)

variable {s place}

theorem bounds_apart (hlow : s.low < s.middle) (hhigh : s.middle < s.high) :
    s.low * (2 : ℚ) ^ s.exponent < s.middle * 2 ^ s.exponent ∧
      s.middle * (2 : ℚ) ^ s.exponent < s.high * 2 ^ s.exponent :=
  ⟨mul_lt_mul_of_pos_right (by exact_mod_cast hlow) (two_zpow_pos _),
    mul_lt_mul_of_pos_right (by exact_mod_cast hhigh) (two_zpow_pos _)⟩

/-- What is taken from a grid is positive and lies in the span. -/
theorem holds_of_on_grid (hlow : s.low < s.middle) (hhigh : s.middle < s.high) {tie : Tie}
    {d : Decimal} (h : s.onGrid tie place = some d) :
    0 < d.digits ∧ s.Holds (d.digits * 10 ^ d.exponent) := by
  obtain ⟨hunder, hover⟩ := bounds_apart hlow hhigh
  -- the lower neighbour can miss the lower bound only, and the upper one the upper bound only
  have hbelow (hfits : (decide (0 < s.below place) && s.reachesLow place (s.below place)) = true) :
      0 < s.below place ∧ s.Holds (s.below place * 10 ^ place) := by
    rw [Bool.and_eq_true, decide_eq_true_eq, reaches_low_iff] at hfits
    obtain ⟨hpos, hreach, hstrict⟩ := hfits
    have hle := (s.below_le place).trans_lt hover
    exact ⟨hpos, hreach, hle.le, fun hopen => ⟨hstrict hopen, hle⟩⟩
  have habove (hfits : s.ReachesHigh place (s.below place + 1)) :
      0 < s.below place + 1 ∧ s.Holds ((s.below place + 1 : ℕ) * 10 ^ place) := by
    obtain ⟨hreach, hstrict⟩ := (s.reaches_high_iff place _).mp hfits
    have hge := hunder.trans (s.lt_above place)
    exact ⟨Nat.succ_pos _, hge.le, hreach, fun hopen => ⟨hge, hstrict hopen⟩⟩
  rw [on_grid_eq] at h
  dsimp only at h
  split_ifs at h with hboth hnearer hlower hupper
  · obtain rfl := Option.some.inj h
    exact hbelow (Bool.and_eq_true _ _ ▸ hboth).1
  · obtain rfl := Option.some.inj h
    exact habove (of_decide_eq_true (Bool.and_eq_true _ _ ▸ hboth).2)
  · obtain rfl := Option.some.inj h
    exact hbelow hlower
  · obtain rfl := Option.some.inj h
    exact habove hupper

/-- A grid that is finer than the upper half of the span has a multiple in the span. -/
theorem on_grid_isSome (tie : Tie)
    (hfine : (10 : ℚ) ^ place < (s.high - s.middle) * 2 ^ s.exponent) :
    (s.onGrid tie place).isSome = true := by
  have hfits : s.ReachesHigh place (s.below place + 1) := by
    have hlt : ((s.below place + 1 : ℕ) : ℚ) * 10 ^ place < s.high * 2 ^ s.exponent := by
      rw [Nat.cast_succ, add_mul, one_mul]
      linarith [s.below_le place]
    exact (s.reaches_high_iff place _).mpr ⟨hlt.le, fun _ => hlt⟩
  rw [on_grid_eq]
  dsimp only
  split_ifs <;> rfl

end Span

/-! All grids. -/

theorem ten_pow_le_of_nonneg : ∀ k < 1024,
    10 ^ (k * 301029995664 / 1000000000000) ≤ 2 * 2 ^ k := by
  decide +kernel

theorem ten_pow_le_of_neg : ∀ k < 1075,
    2 ^ k ≤ 2 * 10 ^ ((k * 301029995664 + 999999999999) / 1000000000000) := by
  decide +kernel

/-- The fraction is close to the logarithm of two: for the exponent of any number, the power of ten
that is found with it is at most twice the power of two. -/
theorem ten_zpow_le {k : Int} (hlow : -1075 < k) (hhigh : k < 1024) :
    (10 : ℚ) ^ ((k * 301029995664).fdiv 1000000000000) ≤ 2 * 2 ^ k := by
  rw [Int.fdiv_eq_ediv_of_nonneg _ (by decide)]
  rcases le_total 0 k with hk | hk
  · obtain ⟨j, rfl⟩ := Int.eq_ofNat_of_zero_le hk
    have hquotient : (j : Int) * 301029995664 / 1000000000000 =
        (j * 301029995664 / 1000000000000 : ℕ) := by omega
    rw [hquotient, zpow_natCast, zpow_natCast]
    exact_mod_cast ten_pow_le_of_nonneg j (by omega)
  · obtain ⟨j, hj⟩ := Int.eq_ofNat_of_zero_le (show 0 ≤ -k by omega)
    obtain rfl : k = -j := by omega
    have hquotient : -(j : Int) * 301029995664 / 1000000000000 =
        -((j * 301029995664 + 999999999999) / 1000000000000 : ℕ) := by omega
    have hle : (2 : ℚ) ^ j ≤ 2 * 10 ^ ((j * 301029995664 + 999999999999) / 1000000000000) := by
      exact_mod_cast ten_pow_le_of_neg j (by omega)
    rw [hquotient, zpow_neg, zpow_neg, zpow_natCast, zpow_natCast, ← div_eq_mul_inv,
      inv_le_comm₀ (by positivity) (by positivity), inv_div]
    rwa [div_le_iff₀ two_pos, mul_comm]

variable {m : Nat} {e : Int}

/-- The finest grid that is tried is finer than half a unit of the last place. -/
theorem finest_grid {negative : Bool} (hm : 0 < m)
    (hcanonical : (finite negative m e).Canonical) :
    (10 : ℚ) ^ (decimalPlace m e - 18) <
      ((Span.around m e).high - (Span.around m e).middle) * 2 ^ (Span.around m e).exponent := by
  obtain ⟨hbits, hleast, hgreatest, -⟩ := hcanonical
  have hleast : -1074 ≤ e := hleast
  have hgreatest : e ≤ 971 := hgreatest
  have hlog : m.log2 < 53 := (Nat.log2_lt hm.ne').mpr hbits
  have hpow := two_zpow_pos e
  have hclose := @ten_zpow_le (m.log2 + e) (by omega) (by omega)
  have hunits : (2 : ℚ) ^ ((m.log2 : Int) + e) ≤ 2 ^ 52 * 2 ^ e := by
    rw [two_zpow_add, zpow_natCast]
    exact mul_le_mul_of_nonneg_right (pow_le_pow_right₀ one_le_two (by omega)) hpow.le
  have hplace : (10 : ℚ) ^ (decimalPlace m e - 18) =
      10 ^ ((((m.log2 : Int) + e) * 301029995664).fdiv 1000000000000) / 10 ^ 17 := by
    rw [decimalPlace, show ((10 : ℚ) ^ 17) = 10 ^ (17 : Int) from rfl, ← zpow_sub₀ (by norm_num)]
    congr 1
    ring
  have hreach : ((Span.around m e).high - (Span.around m e).middle : ℚ) *
      2 ^ (Span.around m e).exponent = 1 / 2 * 2 ^ e := by
    rw [Span.around, zpow_sub₀ two_ne_zero]
    push_cast
    ring
  rw [hplace, hreach, div_lt_iff₀ (by positivity)]
  -- two to the fifty-fourth is less than ten to the seventeenth
  calc (10 : ℚ) ^ ((((m.log2 : Int) + e) * 301029995664).fdiv 1000000000000)
      ≤ 2 * (2 ^ 52 * 2 ^ e) := by linarith
    _ < 1 / 2 * 2 ^ e * 10 ^ 17 := by linarith

/-- The shortest decimal is positive and lies in the span of the number. -/
theorem shortest_holds {negative : Bool} (hm : 0 < m)
    (hcanonical : (finite negative m e).Canonical) (tie : Tie) :
    0 < (shortest tie m e).digits ∧ (Span.around m e).Holds
      ((shortest tie m e).digits * 10 ^ (shortest tie m e).exponent) := by
  have hlow : (Span.around m e).low < (Span.around m e).middle := by
    simp only [Span.around]
    split_ifs <;> omega
  have hhigh : (Span.around m e).middle < (Span.around m e).high := by
    simp only [Span.around]
    omega
  -- the search comes to its end at the finest grid, if it did not before
  have hfound : ((List.range 19).findSome? fun i : Nat =>
      (Span.around m e).onGrid tie (decimalPlace m e - (i : Int))).isSome = true := by
    rw [List.findSome?_isSome_iff]
    exact ⟨18, by decide, Span.on_grid_isSome tie (finest_grid hm hcanonical)⟩
  obtain ⟨d, hd⟩ := Option.isSome_iff_exists.mp hfound
  obtain ⟨i, -, hgrid⟩ := List.exists_of_findSome?_eq_some hd
  have hshortest : shortest tie m e = d := by
    rw [shortest, hd, Option.getD_some]
  rw [hshortest]
  exact Span.holds_of_on_grid hlow hhigh hgrid

end CodeJudge.Binary64
