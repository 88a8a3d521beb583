import DiskPrep.Proofs.Number.Rounding

/-!
The numbers that sizes are computed with, by their values. Every value from a thousandth up to
`2 ^ 80` has a nearest number (`exists_nearest_size`), which is off by less than one in `2 ^ 53`
(`Nearest.error_size`), and a natural number of at most 53 bits is its own (`nearest_natCast`).
-/
namespace DiskPrep

open Binary Format

namespace Binary

/-- The number is finite and not negative, and has the value. -/
def Denotes (x : Binary) (v : Rat) : Prop :=
  ∃ m e, x = .finite false m e ∧ magnitude m e = v

/-- Both numbers are finite, and the first is at most the second. -/
def AtMost (x y : Binary) : Prop :=
  ∃ a b, x.value? = some a ∧ y.value? = some b ∧ a ≤ b

variable {f : Format} {x y : Binary} {a b : Rat}

theorem Denotes.mul_eq (left : x.Denotes a) (right : y.Denotes b) :
    mul f x y = f.round false (a * b) := by
  obtain ⟨m, e, rfl, rfl⟩ := left
  obtain ⟨m', e', rfl, rfl⟩ := right
  rfl

theorem Denotes.div_eq (left : x.Denotes a) (right : y.Denotes b) (nonzero : b ≠ 0) :
    div f x y = f.round false (a / b) := by
  obtain ⟨m, e, rfl, rfl⟩ := left
  obtain ⟨m', e', rfl, rfl⟩ := right
  have divides : m' ≠ 0 := by
    rintro rfl
    simp [magnitude] at nonzero
  rw [div, if_neg divides]
  rfl

theorem Denotes.less_iff (left : x.Denotes a) (right : y.Denotes b) :
    less x y = true ↔ a < b := by
  obtain ⟨m, e, rfl, rfl⟩ := left
  obtain ⟨m', e', rfl, rfl⟩ := right
  exact decide_eq_true_iff

theorem Denotes.value (denotes : x.Denotes a) : x.value? = some a := by
  obtain ⟨m, e, rfl, rfl⟩ := denotes
  rfl

theorem Denotes.isWhole_iff (denotes : x.Denotes a) : x.isWhole = true ↔ ∃ n : Int, a = n := by
  obtain ⟨m, e, rfl, rfl⟩ := denotes
  rw [isWhole, beq_iff_eq]
  constructor
  · intro whole
    exact ⟨_, (Rat.den_eq_one_iff _).mp whole |>.symm⟩
  · rintro ⟨n, eq⟩
    rw [eq]
    rfl

theorem Denotes.atMost_iff (left : x.Denotes a) (right : y.Denotes b) : x.AtMost y ↔ a ≤ b := by
  unfold AtMost
  simp [left.value, right.value]

theorem AtMost.not_less (most : x.AtMost y) : less y x = false := by
  obtain ⟨a, b, left, right, le⟩ := most
  cases x <;> cases y <;> cases left <;> cases right
  exact decide_eq_false le.not_gt

end Binary

theorem binary64_wide : 2 ≤ binary64.precision := by decide

theorem isFull_binary64 {m : Nat} : binary64.IsFull m ↔ 2 ^ 52 ≤ m ∧ m < 2 ^ 53 := Iff.rfl

theorem Format.Nearest.denotes {x : Rat} {m : Nat} {e : Int} (nearest : binary64.Nearest x m e)
    (pos : 0 < x) : (binary64.round false x).Denotes (magnitude m e) :=
  ⟨m, e, nearest.round_eq binary64_wide pos, rfl⟩

/-- Every size has a nearest number. -/
theorem exists_nearest_size {x : Rat} (low : 1 / 1024 ≤ x) (high : x ≤ 2 ^ 80) :
    ∃ m e, binary64.Nearest x m e := by
  have least : twoPow (-1022) ≤ twoPow (-10) := twoPow_le_iff.mpr (by decide)
  have greatest : twoPow 80 < twoPow 1023 := twoPow_lt_iff.mpr (by decide)
  refine exists_nearest binary64_wide ?_ ?_
  · rw [fieldWeight_mul_twoPow]
    have thousandth : twoPow (-10) = 1 / 1024 := by decide +kernel
    exact least.trans (thousandth ▸ low)
  · rw [fieldWeight_mul_twoPow]
    have limit : twoPow 80 = 2 ^ 80 := by decide +kernel
    exact (limit ▸ high).trans_lt greatest

theorem log2_le_of_small {n : Nat} (pos : 0 < n) (small : n < 2 ^ 53) : n.log2 ≤ 52 := by
  have := (Nat.log2_lt (by omega)).mpr small
  omega

/-- A natural number, shifted until its mantissa is full. -/
theorem magnitude_shifted {n : Nat} (short : n.log2 ≤ 52) :
    magnitude (n * 2 ^ (52 - n.log2)) (n.log2 - 52) = n := by
  have cancel : ((2 ^ (52 - n.log2) : Nat) : Rat) * twoPow (n.log2 - 52) = 1 := by
    rw [← twoPow_natCast, ← twoPow_add]
    have opposite : ((52 - n.log2 : Nat) : Int) + (n.log2 - 52) = 0 := by omega
    rw [opposite]
    rfl
  rw [magnitude, Nat.cast_mul, mul_assoc, cancel, mul_one]

/-- A natural number of at most 53 bits is its own nearest number. -/
theorem nearest_natCast {n : Nat} (pos : 0 < n) (small : n < 2 ^ 53) :
    binary64.Nearest n (n * 2 ^ (52 - n.log2)) (n.log2 - 52) := by
  have low : 2 ^ n.log2 ≤ n := Nat.log2_self_le (by omega)
  have high : n < 2 ^ (n.log2 + 1) := Nat.lt_log2_self
  have short : n.log2 ≤ 52 := log2_le_of_small pos small
  have weight : 2 ^ n.log2 * 2 ^ (52 - n.log2) = 2 ^ 52 := by
    rw [← Nat.pow_add, Nat.add_sub_cancel' short]
  have full : binary64.IsFull (n * 2 ^ (52 - n.log2)) := by
    refine isFull_binary64.mpr ⟨?_, ?_⟩
    · rw [← weight]
      exact Nat.mul_le_mul_right _ low
    · calc n * 2 ^ (52 - n.log2) < 2 ^ (n.log2 + 1) * 2 ^ (52 - n.log2) :=
            Nat.mul_lt_mul_of_pos_right high (Nat.two_pow_pos _)
        _ = 2 ^ 52 * 2 := by rw [Nat.pow_succ, mul_right_comm, weight]
  have least : binary64.minExponent ≤ (n.log2 : Int) - 52 := by
    have : binary64.minExponent = -1074 := rfl
    omega
  have greatest : (n.log2 : Int) - 52 ≤ binary64.maxExponent := by
    have : binary64.maxExponent = 971 := rfl
    omega
  rw [← magnitude_shifted short]
  exact nearest_magnitude full least greatest

/-- A natural number of at most 53 bits is converted exactly. -/
theorem ofNat_denotes {n : Nat} (small : n < 2 ^ 53) : (binary64.ofNat n).Denotes n := by
  rcases Nat.eq_zero_or_pos n with rfl | pos
  · exact ⟨0, -1074, rfl, by simp [magnitude]⟩
  · have itself := (nearest_natCast pos small).denotes (Nat.cast_pos.mpr pos)
    rwa [magnitude_shifted (log2_le_of_small pos small)] at itself

/-- The error of a rounding is less than one in `2 ^ 53`. -/
theorem Format.Nearest.error_size {x : Rat} {m : Nat} {e : Int} (nearest : binary64.Nearest x m e) :
    (2 ^ 53 - 1) * magnitude m e ≤ 2 ^ 53 * x ∧ 2 ^ 53 * x ≤ (2 ^ 53 + 1) * magnitude m e := by
  have bound : (binary64.mantissaBound : Rat) = 2 ^ 53 := by
    have : binary64.mantissaBound = 2 ^ 53 := rfl
    rw [this]
    norm_num
  have := nearest.error binary64_wide
  rwa [bound] at this

/-- A number that a value is rounded to. -/
structure Rounding (x : Rat) where
  mantissa : Nat
  exponent : Int
  nearest : binary64.Nearest x mantissa exponent

theorem exists_rounding {x : Rat} (low : 1 / 1024 ≤ x) (high : x ≤ 2 ^ 80) : Nonempty (Rounding x) := by
  obtain ⟨m, e, nearest⟩ := exists_nearest_size low high
  exact ⟨m, e, nearest⟩

namespace Rounding

variable {x y : Rat}

def number (r : Rounding x) : Binary := .finite false r.mantissa r.exponent

def value (r : Rounding x) : Rat := magnitude r.mantissa r.exponent

theorem denotes (r : Rounding x) : r.number.Denotes r.value := ⟨_, _, rfl, rfl⟩

theorem value_pos (r : Rounding x) : 0 < r.value := by
  have full : 2 ^ 52 ≤ r.mantissa := r.nearest.full.1
  have mantissa_pos : (0 : Rat) < r.mantissa := Nat.cast_pos.mpr (by omega)
  exact mul_pos mantissa_pos (twoPow_pos _)

theorem round_eq (r : Rounding x) (pos : 0 < x) : binary64.round false x = r.number :=
  r.nearest.round_eq binary64_wide pos

theorem error_size (r : Rounding x) :
    (2 ^ 53 - 1) * r.value ≤ 2 ^ 53 * x ∧ 2 ^ 53 * x ≤ (2 ^ 53 + 1) * r.value :=
  r.nearest.error_size

/-- The number is rounded to itself. -/
theorem nearest_value (r : Rounding x) : binary64.Nearest r.value r.mantissa r.exponent :=
  nearest_magnitude r.nearest.full r.nearest.least r.nearest.greatest

/-- Two roundings have one value when the one number is also the nearest to what the other rounds. -/
theorem value_eq_iff (r : Rounding x) (s : Rounding y) (pos : 0 < y) :
    s.value = r.value ↔ binary64.Nearest y r.mantissa r.exponent := by
  constructor
  · intro same
    have other := s.nearest_value
    rw [same] at other
    obtain ⟨mantissas, exponents⟩ := r.nearest_value.unique binary64_wide r.value_pos other
    rw [mantissas, exponents]
    exact s.nearest
  · intro nearest
    obtain ⟨mantissas, exponents⟩ := nearest.unique binary64_wide pos s.nearest
    rw [value, value, mantissas, exponents]

end Rounding

end DiskPrep
