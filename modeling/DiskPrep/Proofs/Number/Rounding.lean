import DiskPrep.Number.Decimal
import Mathlib.Data.Rat.Floor
import Mathlib.Tactic.Linarith
import Mathlib.Tactic.NormNum
import Mathlib.Tactic.Ring

/-!
Which reals round to a number. A magnitude rounds to a number with a full mantissa exactly when
it stands between the ends from which the number is read back (`Format.Nearest.round_eq`,
`between_of_round`), so rounding can be argued about through two inequalities, without the search
for the unit.
-/
namespace DiskPrep

theorem twoPow_pos (e : Int) : 0 < twoPow e :=
  zpow_pos two_pos e

theorem twoPow_add (a b : Int) : twoPow (a + b) = twoPow a * twoPow b :=
  zpow_add₀ two_ne_zero a b

theorem twoPow_succ (e : Int) : twoPow (e + 1) = 2 * twoPow e := by
  rw [twoPow_add, mul_comm]
  rfl

theorem twoPow_natCast (n : Nat) : twoPow n = (2 ^ n : Nat) := by
  rw [Nat.cast_pow]
  exact zpow_natCast 2 n

theorem twoPow_lt_iff {a b : Int} : twoPow a < twoPow b ↔ a < b :=
  zpow_lt_zpow_iff_right₀ one_lt_two

theorem twoPow_le_iff {a b : Int} : twoPow a ≤ twoPow b ↔ a ≤ b :=
  zpow_le_zpow_iff_right₀ one_lt_two

/-- The binary logarithm of a natural number, as powers of two. -/
theorem log2_bounds {n : Nat} (pos : 0 < n) :
    twoPow n.log2 ≤ n ∧ (n : Rat) < 2 * twoPow n.log2 := by
  constructor
  · rw [twoPow_natCast]
    exact Nat.cast_le.mpr (Nat.log2_self_le (by omega))
  · rw [← twoPow_succ, ← Nat.cast_succ, twoPow_natCast]
    exact Nat.cast_lt.mpr Nat.lt_log2_self

/-- The greatest power of two that a positive value reaches. -/
theorem binaryLog_spec {x : Rat} (pos : 0 < x) :
    twoPow (binaryLog x) ≤ x ∧ x < 2 * twoPow (binaryLog x) := by
  have num_pos : 0 < x.num := Rat.num_pos.mpr pos
  obtain ⟨num_low, num_high⟩ := @log2_bounds x.num.natAbs (by omega)
  obtain ⟨den_low, den_high⟩ := log2_bounds x.den_pos
  have value : x * x.den = x.num.natAbs := by
    rw [Rat.mul_den_eq_num, Nat.cast_natAbs, abs_of_pos num_pos]
  have den_pos : (0 : Rat) < x.den := Nat.cast_pos.mpr x.den_pos
  unfold binaryLog
  generalize (x.num.natAbs.log2 : Int) = a at num_low num_high
  generalize (x.den.log2 : Int) = b at den_low den_high
  have b_pos := twoPow_pos b
  have quotient : twoPow (a - b) * twoPow b = twoPow a := by
    rw [← twoPow_add, Int.sub_add_cancel]
  have low : twoPow (a - b) < 2 * x := by nlinarith
  have high : x < 2 * twoPow (a - b) := by nlinarith
  dsimp only
  split
  next reached => exact ⟨reached, high⟩
  next missed =>
    have half : twoPow (a - b) = 2 * twoPow (a - b - 1) := by
      rw [← twoPow_succ, Int.sub_add_cancel]
    constructor
    · linarith
    · rw [← half]
      exact not_le.mp missed

/-- `x` stands between two ends; the ends themselves count only for an even number. -/
def Between (low high x : Rat) (n : Nat) : Prop :=
  low ≤ x ∧ x ≤ high ∧ (n % 2 ≠ 0 → low < x ∧ x < high)

theorem between_nearestEven {x : Rat} (nonneg : 0 ≤ x) :
    Between (nearestEven x - 1 / 2) (nearestEven x + 1 / 2) x (nearestEven x) := by
  have below_eq : x.floor.toNat = ⌊x⌋₊ := Int.floor_toNat x
  have low : (⌊x⌋₊ : Rat) ≤ x := Nat.floor_le nonneg
  have high : x < ⌊x⌋₊ + 1 := Nat.lt_floor_add_one x
  simp only [nearestEven, below_eq]
  generalize ⌊x⌋₊ = below at low high
  split
  next near => exact ⟨by linarith, by linarith, fun _ => ⟨by linarith, by linarith⟩⟩
  next not_near =>
    split
    next far =>
      push_cast
      exact ⟨by linarith, by linarith, fun _ => ⟨by linarith, by linarith⟩⟩
    next not_far =>
      -- Exactly half a unit off: the even neighbour is taken.
      split
      next even => exact ⟨by linarith, by linarith, fun odd => absurd even odd⟩
      next odd =>
        push_cast
        exact ⟨by linarith, by linarith, fun other => absurd (by omega) other⟩

theorem Between.mono {low low' high high' x : Rat} {n : Nat} (between : Between low high x n)
    (lower : low' ≤ low) (upper : high ≤ high') : Between low' high' x n := by
  obtain ⟨above, below, inside⟩ := between
  refine ⟨lower.trans above, below.trans upper, ?_⟩
  intro odd
  exact ⟨lower.trans_lt (inside odd).1, (inside odd).2.trans_le upper⟩

theorem between_div_iff {low high x unit : Rat} (pos : 0 < unit) {n : Nat} :
    Between low high (x / unit) n ↔ Between (low * unit) (high * unit) x n := by
  simp only [Between, le_div_iff₀ pos, div_le_iff₀ pos, lt_div_iff₀ pos, div_lt_iff₀ pos]

/-- Bounds of half a unit are bounds of whole ones. -/
theorem le_of_sub_half_lt {unit : Rat} (pos : 0 < unit) {k n : Nat}
    (less : (n - 1 / 2) * unit < k * unit) : n ≤ k := by
  have : (n : Rat) - 1 / 2 < k := lt_of_mul_lt_mul_right less pos.le
  have : (n : Rat) < (k + 1 : Nat) := by push_cast; linarith
  exact Nat.lt_succ_iff.mp (Nat.cast_lt.mp this)

theorem le_of_le_add_half {unit : Rat} (pos : 0 < unit) {k n : Nat}
    (most : k * unit ≤ (n + 1 / 2) * unit) : k ≤ n := by
  have : (k : Rat) ≤ n + 1 / 2 := le_of_mul_le_mul_right most pos
  have : (k : Rat) < (n + 1 : Nat) := by push_cast; linarith
  exact Nat.lt_succ_iff.mp (Nat.cast_lt.mp this)

/-- No value is nearest to two integers. -/
theorem not_between_of_lt {x : Rat} {k n : Nat} (less : k < n)
    (first : Between (k - 1 / 2) (k + 1 / 2) x k) : ¬ Between (n - 1 / 2) (n + 1 / 2) x n := by
  rintro ⟨low, -, inside⟩
  obtain ⟨-, high, inside'⟩ := first
  have apart : (k : Rat) + 1 ≤ n := by exact_mod_cast less
  by_cases odd : n % 2 = 0
  · have next : n = k + 1 := by
      have close : (n : Rat) ≤ (k + 1 : Nat) := by push_cast; linarith
      have := Nat.cast_le.mp close
      omega
    have := (inside' (by omega)).2
    linarith
  · have := (inside odd).1
    linarith

theorem nearestEven_eq_iff {x : Rat} (nonneg : 0 ≤ x) {n : Nat} :
    nearestEven x = n ↔ Between (n - 1 / 2) (n + 1 / 2) x n := by
  constructor
  · rintro rfl
    exact between_nearestEven nonneg
  · intro near
    rcases Nat.lt_trichotomy (nearestEven x) n with less | same | more
    · exact absurd near (not_between_of_lt less (between_nearestEven nonneg))
    · exact same
    · exact absurd (between_nearestEven nonneg) (not_between_of_lt more near)

namespace Format

variable {f : Format}

/-- The mantissa has all the digits of the format. -/
def IsFull (f : Format) (mantissa : Nat) : Prop :=
  f.fieldWeight ≤ mantissa ∧ mantissa < f.mantissaBound

theorem fieldWeight_eq : f.fieldWeight = 2 ^ (f.precision - 1) := by
  rw [fieldWeight, Nat.one_shiftLeft]

theorem fieldWeight_pos : 0 < f.fieldWeight := by
  rw [fieldWeight_eq]
  exact Nat.two_pow_pos _

theorem mantissaBound_eq (wide : 2 ≤ f.precision) : f.mantissaBound = 2 * f.fieldWeight := by
  rw [mantissaBound, Nat.one_shiftLeft, fieldWeight_eq, ← Nat.pow_succ']
  congr 1
  omega

theorem fieldWeight_even (wide : 2 ≤ f.precision) : f.fieldWeight % 2 = 0 := by
  obtain ⟨p, eq⟩ : ∃ p, f.precision - 1 = p + 1 := ⟨f.precision - 2, by omega⟩
  rw [fieldWeight_eq, eq, Nat.pow_succ]
  omega

theorem fieldWeight_mul_twoPow (e : Int) :
    (f.fieldWeight : Rat) * twoPow e = twoPow (e + (f.precision - 1 : Nat)) := by
  rw [fieldWeight_eq, ← twoPow_natCast, ← twoPow_add, add_comm]

/-- The unit of a positive value: the value has no more digits than the format, and no fewer
unless the unit is the least. -/
theorem unitExponent_eq_iff {x : Rat} (pos : 0 < x) {e : Int} :
    f.unitExponent x = e ↔ f.minExponent ≤ e ∧ x < 2 * (f.fieldWeight * twoPow e) ∧
      (f.minExponent < e → f.fieldWeight * twoPow e ≤ x) := by
  obtain ⟨low, high⟩ := binaryLog_spec pos
  rw [← twoPow_succ] at high
  simp only [unitExponent, fieldWeight_mul_twoPow, ← twoPow_succ]
  generalize binaryLog x = log at low high
  constructor
  · rintro rfl
    refine ⟨le_max_left _ _, high.trans_le (twoPow_le_iff.mpr ?_), ?_⟩
    · have := le_max_right f.minExponent (log - (f.precision - 1 : Nat))
      omega
    · intro above
      refine le_trans (twoPow_le_iff.mpr ?_) low
      have := le_max_iff.mp (le_refl (max f.minExponent (log - (f.precision - 1 : Nat))))
      omega
  · rintro ⟨least, less, reached⟩
    have upper : log < e + (f.precision - 1 : Nat) + 1 := twoPow_lt_iff.mp (low.trans_lt less)
    rcases least.lt_or_eq with above | rfl
    · have lower : e + (f.precision - 1 : Nat) < log + 1 :=
        twoPow_lt_iff.mp ((reached above).trans_lt high)
      omega
    · omega

end Format

namespace Binary

variable {f : Format} {m : Nat} {e : Int} {x : Rat}

theorem readsBack_iff : readsBack f m e x = true ↔ Between (lowerEnd f m e) (upperEnd m e) x m := by
  unfold readsBack Between
  by_cases even : m % 2 = 0
  · simp [even]
  · simp only [even, if_false, decide_eq_true_eq, ne_eq, not_false_eq_true, true_implies]
    exact ⟨fun ⟨low, high⟩ => ⟨low.le, high.le, low, high⟩, fun ⟨_, _, inside⟩ => inside⟩

theorem lowerEnd_boundary (above : f.minExponent < e) :
    lowerEnd f f.fieldWeight e = (f.fieldWeight - 1 / 4) * twoPow e := by
  simp [lowerEnd, above]

theorem lowerEnd_eq (other : ¬ (m = f.fieldWeight ∧ f.minExponent < e)) :
    lowerEnd f m e = (m - 1 / 2) * twoPow e := by
  rw [lowerEnd, if_neg other]

/-- The lower end is at most half a unit below. -/
theorem le_lowerEnd : (m - 1 / 2) * twoPow e ≤ lowerEnd f m e := by
  by_cases boundary : m = f.fieldWeight ∧ f.minExponent < e
  · obtain ⟨rfl, above⟩ := boundary
    rw [lowerEnd_boundary above]
    have := twoPow_pos e
    nlinarith
  · rw [lowerEnd_eq boundary]

theorem lowerEnd_lt_magnitude : lowerEnd f m e < magnitude m e := by
  have unit_pos := twoPow_pos e
  unfold lowerEnd magnitude
  dsimp only
  split <;> linarith

theorem magnitude_lt_upperEnd : magnitude m e < upperEnd m e := by
  have unit_pos := twoPow_pos e
  unfold upperEnd magnitude
  linarith

end Binary

namespace Format

open Binary

variable {f : Format} {m : Nat} {e : Int} {x : Rat}

theorem round_eq_canonical (pos : 0 < x) :
    f.round false x =
      f.canonical false (nearestEven (x / twoPow (f.unitExponent x))) (f.unitExponent x) := by
  rw [round, if_neg pos.ne', if_neg pos.not_gt, ofMagnitude]

/-- The mantissa found in a unit, as bounds of the value. -/
theorem nearestEven_div_iff (pos : 0 < x) :
    nearestEven (x / twoPow e) = m ↔
      Between ((m - 1 / 2) * twoPow e) ((m + 1 / 2) * twoPow e) x m := by
  rw [nearestEven_eq_iff (div_pos pos (twoPow_pos e)).le, between_div_iff (twoPow_pos e)]

/-- A number that a value is rounded to stands for the value. -/
theorem between_of_round (wide : 2 ≤ f.precision) (pos : 0 < x)
    (rounded : f.round false x = .finite false m e) :
    Between (lowerEnd f m e) (upperEnd m e) x m := by
  obtain ⟨least, less, reached⟩ := (unitExponent_eq_iff pos).mp (rfl : f.unitExponent x = _)
  obtain ⟨low, high, inside⟩ := (nearestEven_div_iff (e := f.unitExponent x) pos).mp rfl
  rw [round_eq_canonical pos] at rounded
  generalize f.unitExponent x = u at *
  generalize nearestEven (x / twoPow u) = n at *
  have unit_pos := twoPow_pos u
  simp only [canonical, mantissaBound_eq wide] at rounded
  split at rounded
  next carried =>
    -- The mantissa is carried out of its range, so the unit is doubled.
    split at rounded
    · cases rounded
    · obtain ⟨-, rfl, rfl⟩ := Binary.finite.inj rounded
      rw [carried, Nat.mul_div_cancel_left _ two_pos, lowerEnd_boundary (by omega), upperEnd,
        twoPow_succ]
      rw [carried] at low
      push_cast at low
      refine ⟨by linarith, by linarith, ?_⟩
      intro odd
      exact absurd (fieldWeight_even wide) odd
  next kept =>
    split at rounded
    · cases rounded
    · obtain ⟨-, rfl, rfl⟩ := Binary.finite.inj rounded
      by_cases boundary : n = f.fieldWeight ∧ f.minExponent < u
      · obtain ⟨rfl, above⟩ := boundary
        rw [lowerEnd_boundary above]
        have := reached above
        refine ⟨by linarith, high, ?_⟩
        intro odd
        exact absurd (fieldWeight_even wide) odd
      · rw [lowerEnd_eq boundary]
        exact ⟨low, high, inside⟩

/-- The number with this mantissa and this unit is full, and of all numbers of the format it is
the one that the value is rounded to. -/
structure Nearest (f : Format) (x : Rat) (m : Nat) (e : Int) : Prop where
  full : f.IsFull m
  least : f.minExponent ≤ e
  greatest : e ≤ f.maxExponent
  between : Between (lowerEnd f m e) (upperEnd m e) x m

theorem Nearest.round_eq (wide : 2 ≤ f.precision) (pos : 0 < x) (nearest : f.Nearest x m e) :
    f.round false x = .finite false m e := by
  obtain ⟨⟨enough, few⟩, least, greatest, between⟩ := nearest
  have few_eq := mantissaBound_eq wide
  rw [few_eq] at few
  have unit_pos := twoPow_pos e
  have near := between.mono le_lowerEnd (le_refl (upperEnd m e))
  by_cases reached : f.minExponent < e → f.fieldWeight * twoPow e ≤ x
  · have unit : f.unitExponent x = e := by
      refine (unitExponent_eq_iff pos).mpr ⟨least, ?_, reached⟩
      have bound : (m : Rat) + 1 ≤ 2 * f.fieldWeight := by exact_mod_cast few
      have high : x ≤ (m + 1 / 2) * twoPow e := between.2.1
      nlinarith
    rw [round_eq_canonical pos, unit, (nearestEven_div_iff pos).mpr near, canonical, few_eq,
      if_neg (by omega)]
    simp [greatest.not_gt]
  · push Not at reached
    obtain ⟨above, below⟩ := reached
    -- The value is below the least full mantissa, so it is carried up to it.
    obtain rfl : m = f.fieldWeight :=
      le_antisymm (le_of_sub_half_lt unit_pos (near.1.trans_lt below)) enough
    have halved : twoPow e = 2 * twoPow (e - 1) := by
      rw [← twoPow_succ, Int.sub_add_cancel]
    have low := between.1
    rw [lowerEnd_boundary above, halved] at low
    rw [halved] at below
    have half_pos := twoPow_pos (e - 1)
    have weight : (1 : Rat) ≤ f.fieldWeight := by exact_mod_cast fieldWeight_pos
    have unit : f.unitExponent x = e - 1 := by
      refine (unitExponent_eq_iff pos).mpr ⟨by omega, by linarith, ?_⟩
      intro _
      nlinarith
    have carried : nearestEven (x / twoPow (e - 1)) = 2 * f.fieldWeight := by
      refine (nearestEven_div_iff pos).mpr ?_
      push_cast
      refine ⟨by linarith, by linarith, ?_⟩
      intro odd
      omega
    rw [round_eq_canonical pos, unit, carried, canonical, few_eq, if_pos rfl]
    simp [greatest.not_gt]

/-- Every value that is neither too small nor too great is rounded to a full number. -/
theorem exists_nearest (wide : 2 ≤ f.precision)
    (normal : f.fieldWeight * twoPow f.minExponent ≤ x)
    (small : x < f.fieldWeight * twoPow f.maxExponent) : ∃ m e, f.Nearest x m e := by
  have weight : (0 : Rat) < f.fieldWeight := by exact_mod_cast fieldWeight_pos
  have pos : 0 < x := (mul_pos weight (twoPow_pos _)).trans_le normal
  obtain ⟨least, less, reached⟩ := (unitExponent_eq_iff pos).mp (rfl : f.unitExponent x = _)
  obtain ⟨low, high, -⟩ := (nearestEven_div_iff (e := f.unitExponent x) pos).mp rfl
  have rounded := round_eq_canonical (f := f) pos
  generalize f.unitExponent x = u at *
  generalize nearestEven (x / twoPow u) = n at *
  have unit_pos := twoPow_pos u
  have enough : f.fieldWeight * twoPow u ≤ x := by
    rcases least.lt_or_eq with above | rfl
    · exact reached above
    · exact normal
  have greatest : u < f.maxExponent := by
    have := lt_of_mul_lt_mul_left (enough.trans_lt small) weight.le
    exact twoPow_lt_iff.mp this
  have full : f.fieldWeight ≤ n := le_of_le_add_half unit_pos (enough.trans high)
  have few : n ≤ 2 * f.fieldWeight := by
    refine le_of_sub_half_lt unit_pos ?_
    push_cast
    linarith
  by_cases carried : n = 2 * f.fieldWeight
  · have rounded' : f.round false x = .finite false f.fieldWeight (u + 1) := by
      rw [rounded, canonical, mantissaBound_eq wide, if_pos carried]
      simp [carried, show ¬ f.maxExponent < u + 1 by omega]
    refine ⟨_, _, ⟨le_refl _, ?_⟩, by omega, by omega, between_of_round wide pos rounded'⟩
    rw [mantissaBound_eq wide]
    have := @fieldWeight_pos f
    omega
  · have rounded' : f.round false x = .finite false n u := by
      rw [rounded, canonical, mantissaBound_eq wide, if_neg carried]
      simp [greatest.not_gt]
    refine ⟨_, _, ⟨full, ?_⟩, least, greatest.le, between_of_round wide pos rounded'⟩
    rw [mantissaBound_eq wide]
    omega

/-- A full number is rounded to itself. -/
theorem nearest_magnitude (full : f.IsFull m) (least : f.minExponent ≤ e)
    (greatest : e ≤ f.maxExponent) : f.Nearest (magnitude m e) m e := by
  refine ⟨full, least, greatest, ?_⟩
  have lower := @lowerEnd_lt_magnitude f m e
  have upper := @magnitude_lt_upperEnd m e
  exact ⟨lower.le, upper.le, fun _ => ⟨lower, upper⟩⟩

/-- A value has one nearest number, and a number one full mantissa. -/
theorem Nearest.unique (wide : 2 ≤ f.precision) {m' : Nat} {e' : Int} (pos : 0 < x)
    (first : f.Nearest x m e) (second : f.Nearest x m' e') : m = m' ∧ e = e' := by
  have same := (first.round_eq wide pos).symm.trans (second.round_eq wide pos)
  obtain ⟨-, mantissas, exponents⟩ := Binary.finite.inj same
  exact ⟨mantissas, exponents⟩

/-- A value is off its nearest number by at most half a unit, which is a small part of either. -/
theorem Nearest.error (wide : 2 ≤ f.precision) (nearest : f.Nearest x m e) :
    (f.mantissaBound - 1) * magnitude m e ≤ f.mantissaBound * x ∧
      f.mantissaBound * x ≤ (f.mantissaBound + 1) * magnitude m e := by
  obtain ⟨⟨full, -⟩, -, -, low, high, -⟩ := nearest
  have low := le_lowerEnd.trans low
  have unit_pos := twoPow_pos e
  have full' : (f.fieldWeight : Rat) * twoPow e ≤ m * twoPow e :=
    mul_le_mul_of_nonneg_right (by exact_mod_cast full) unit_pos.le
  have weight : (0 : Rat) < f.fieldWeight := by exact_mod_cast fieldWeight_pos
  rw [mantissaBound_eq wide]
  unfold magnitude
  rw [upperEnd] at high
  push_cast
  constructor
  · nlinarith [mul_le_mul_of_nonneg_left low weight.le]
  · nlinarith [mul_le_mul_of_nonneg_left high weight.le]

/-- A number in a finer unit. -/
theorem magnitude_scaled (k : Nat) : magnitude m (e + k) = (2 ^ k * m : Nat) * twoPow e := by
  rw [magnitude, twoPow_add, twoPow_natCast]
  push_cast
  ring

/-- The error of a value that is a whole number of finer units is one of such units. -/
theorem Nearest.scaled {a k : Nat} (nearest : f.Nearest (a * twoPow e) m (e + (k + 1 : Nat))) :
    2 ^ (k + 1) * m ≤ a + 2 ^ k ∧ a ≤ 2 ^ (k + 1) * m + 2 ^ k := by
  obtain ⟨low, high, -⟩ := nearest.between
  have low := le_lowerEnd.trans low
  rw [twoPow_add, twoPow_natCast] at low
  rw [upperEnd, twoPow_add, twoPow_natCast] at high
  have unit_pos := twoPow_pos e
  have double : ((2 ^ (k + 1) : Nat) : Rat) = 2 * (2 ^ k : Nat) := by rw [Nat.pow_succ']; push_cast; ring
  rw [double] at low high
  constructor
  · have : ((2 ^ (k + 1) * m : Nat) : Rat) ≤ (a + 2 ^ k : Nat) := by
      rw [Nat.cast_mul, double, Nat.cast_add]
      exact le_of_mul_le_mul_right (by linarith) unit_pos
    exact Nat.cast_le.mp this
  · have : (a : Rat) ≤ (2 ^ (k + 1) * m + 2 ^ k : Nat) := by
      rw [Nat.cast_add, Nat.cast_mul, double]
      exact le_of_mul_le_mul_right (by linarith) unit_pos
    exact Nat.cast_le.mp this

/-- Below the least mantissa of a unit the error is half as large. -/
theorem Nearest.scaled_boundary {a k : Nat}
    (nearest : f.Nearest (a * twoPow e) f.fieldWeight (e + (k + 2 : Nat)))
    (above : f.minExponent < e + (k + 2 : Nat)) : 2 ^ (k + 2) * f.fieldWeight ≤ a + 2 ^ k := by
  have low := nearest.between.1
  rw [lowerEnd_boundary above, twoPow_add, twoPow_natCast] at low
  have fourfold : ((2 ^ (k + 2) : Nat) : Rat) = 4 * (2 ^ k : Nat) := by rw [Nat.pow_add]; push_cast; ring
  rw [fourfold] at low
  have : ((2 ^ (k + 2) * f.fieldWeight : Nat) : Rat) ≤ (a + 2 ^ k : Nat) := by
    rw [Nat.cast_mul, fourfold, Nat.cast_add]
    exact le_of_mul_le_mul_right (by linarith) (twoPow_pos e)
  exact Nat.cast_le.mp this

end Format

end DiskPrep
