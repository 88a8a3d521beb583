import DiskPrep.Proofs.Number.Value

/-!
Numbers multiplied by a hundred and then divided by it, both rounded. The result is the number
again exactly when the product was rounded by at most half a hundred of the number's units
(`nearest_hundredth_iff`), which the last seven bits of the product decide.
-/
namespace DiskPrep.Binary

open Format

variable {m m₁ : Nat} {e e₁ : Int}

/-- The hundredfold of a full mantissa has six or seven bits more. -/
theorem unit_of_hundredfold (full : binary64.IsFull m)
    (product : binary64.Nearest (magnitude m e * 100) m₁ e₁) : e₁ = e + 6 ∨ e₁ = e + 7 := by
  obtain ⟨least, less⟩ := isFull_binary64.mp full
  obtain ⟨least₁, less₁⟩ := isFull_binary64.mp product.full
  obtain ⟨low, high⟩ := product.error_size
  unfold magnitude at low high
  have unit_pos := twoPow_pos e
  have unit_pos₁ := twoPow_pos e₁
  have mantissa_low : 2 ^ 52 * twoPow e ≤ m * twoPow e :=
    mul_le_mul_of_nonneg_right (by exact_mod_cast least) unit_pos.le
  have mantissa_high : m * twoPow e ≤ (2 ^ 53 - 1) * twoPow e := by
    have : (m : Rat) + 1 ≤ 2 ^ 53 := by exact_mod_cast less
    exact mul_le_mul_of_nonneg_right (by linarith) unit_pos.le
  have mantissa_low₁ : 2 ^ 52 * twoPow e₁ ≤ m₁ * twoPow e₁ :=
    mul_le_mul_of_nonneg_right (by exact_mod_cast least₁) unit_pos₁.le
  have mantissa_high₁ : m₁ * twoPow e₁ < 2 ^ 53 * twoPow e₁ :=
    mul_lt_mul_of_pos_right (by exact_mod_cast less₁) unit_pos₁
  have not_less : e + 5 < e₁ := by
    have : twoPow (e + 5) < twoPow e₁ := by
      rw [twoPow_add, show twoPow 5 = 32 from rfl]
      linarith
    exact twoPow_lt_iff.mp this
  have not_more : e₁ < e + 8 := by
    have : twoPow e₁ < twoPow (e + 8) := by
      rw [twoPow_add, show twoPow 8 = 256 from rfl]
      linarith
    exact twoPow_lt_iff.mp this
  omega

/-- In units of the mantissa, the rounded hundredfold is at most 64 off, and at most 32 where it
has only six bits more. -/
theorem exists_hundredfold (full : binary64.IsFull m) (least : binary64.minExponent ≤ e)
    (product : binary64.Nearest (magnitude m e * 100) m₁ e₁) :
    ∃ q : Nat, magnitude m₁ e₁ = q * twoPow e ∧ q % 64 = 0 ∧
      q ≤ 100 * m + 64 ∧ 100 * m ≤ q + 64 ∧
      (100 * m < 2 ^ 59 → q ≤ 100 * m + 32 ∧ 100 * m ≤ q + 32) ∧
      (2 ^ 59 ≤ 100 * m → q % 128 = 0) := by
  obtain ⟨full₁, less₁⟩ := isFull_binary64.mp product.full
  have value : magnitude m e * 100 = (100 * m : Nat) * twoPow e := by
    rw [magnitude]
    push_cast
    ring
  rcases unit_of_hundredfold full product with rfl | rfl
  · rw [value] at product
    obtain ⟨low, high⟩ := @Nearest.scaled _ _ e (100 * m) 5 product
    exact ⟨2 ^ 6 * m₁, magnitude_scaled 6, by omega, by omega, by omega, by omega, by omega⟩
  · rw [value] at product
    obtain ⟨low, high⟩ := @Nearest.scaled _ _ e (100 * m) 6 product
    have boundary : m₁ = 2 ^ 52 → 2 ^ 59 ≤ 100 * m + 32 := by
      rintro rfl
      exact @Nearest.scaled_boundary binary64 e (100 * m) 5 product (by omega)
    exact ⟨2 ^ 7 * m₁, magnitude_scaled 7, by omega, by omega, by omega, by omega, by omega⟩

theorem mod_le_iff_near {a k : Nat} (upper : 128 * k ≤ a + 64) (lower : a ≤ 128 * k + 64) :
    (a + 50) % 128 ≤ 100 ↔ 128 * k ≤ a + 50 ∧ a ≤ 128 * k + 50 := by
  rcases Nat.lt_or_ge (a + 50) (128 * k) with less | more
  · obtain ⟨rest, sum⟩ : ∃ rest, a + 50 = 128 * (k - 1) + rest :=
      ⟨_, (Nat.add_sub_cancel' (by omega)).symm⟩
    rw [sum, Nat.mul_add_mod, Nat.mod_eq_of_lt (by omega)]
    omega
  · obtain ⟨rest, sum⟩ := Nat.exists_eq_add_of_le more
    rw [sum, Nat.mul_add_mod, Nat.mod_eq_of_lt (by omega)]
    omega

/-- The hundredfold of a full mantissa is rounded by at most fifty, half of a hundred. It is rounded
to a multiple of 64 or, from `2 ^ 59` on, of 128; only the latter can be further off. -/
def HundredfoldKept (mantissa : Nat) : Prop :=
  100 * mantissa < 2 ^ 59 ∨ (100 * mantissa + 50) % 128 ≤ 100

instance (mantissa : Nat) : Decidable (HundredfoldKept mantissa) :=
  inferInstanceAs (Decidable (_ ∨ _))

theorem hundredfoldKept_iff {q : Nat} (upper : q ≤ 100 * m + 64) (lower : 100 * m ≤ q + 64)
    (short : 100 * m < 2 ^ 59 → q ≤ 100 * m + 32 ∧ 100 * m ≤ q + 32)
    (long : 2 ^ 59 ≤ 100 * m → q % 128 = 0) :
    HundredfoldKept m ↔ q ≤ 100 * m + 50 ∧ 100 * m ≤ q + 50 := by
  unfold HundredfoldKept
  rcases Nat.lt_or_ge (100 * m) (2 ^ 59) with less | more
  · have := short less
    omega
  · obtain ⟨k, rfl⟩ := Nat.dvd_of_mod_eq_zero (long more)
    rw [mod_le_iff_near upper lower]
    omega

/-- The bounds of the mantissa that a hundredth is rounded to, in its own units. -/
theorem between_hundredth_iff {q : Nat} :
    Between ((m - 1 / 2) * twoPow e) ((m + 1 / 2) * twoPow e) (q * twoPow e / 100) m ↔
      100 * m ≤ q + 50 ∧ q ≤ 100 * m + 50 ∧
        (m % 2 ≠ 0 → 100 * m < q + 50 ∧ q < 100 * m + 50) := by
  have pos : 0 < twoPow e / 100 := div_pos (twoPow_pos e) (by norm_num)
  have low : (m - 1 / 2) * twoPow e = ((100 * m : Nat) - 50) * (twoPow e / 100) := by
    push_cast
    ring
  have high : (m + 1 / 2) * twoPow e = ((100 * m : Nat) + 50) * (twoPow e / 100) := by
    push_cast
    ring
  rw [low, high, mul_div_assoc]
  simp only [Between, mul_le_mul_iff_left₀ pos, mul_lt_mul_iff_left₀ pos, sub_le_iff_le_add,
    sub_lt_iff_lt_add]
  norm_cast

/-- The hundredth of a rounded hundredfold is rounded to the number itself exactly when the
hundredfold was not rounded by more than fifty. -/
theorem nearest_hundredth_iff (full : binary64.IsFull m) (least : binary64.minExponent ≤ e)
    (greatest : e ≤ binary64.maxExponent)
    (product : binary64.Nearest (magnitude m e * 100) m₁ e₁) :
    binary64.Nearest (magnitude m₁ e₁ / 100) m e ↔ HundredfoldKept m := by
  obtain ⟨q, value, chunks, upper, lower, short, long⟩ := exists_hundredfold full least product
  rw [value, hundredfoldKept_iff upper lower short long]
  constructor
  · intro nearest
    have near := between_hundredth_iff.mp (nearest.between.mono le_lowerEnd (le_refl _))
    exact ⟨near.2.1, near.1⟩
  · rintro ⟨above, below⟩
    by_cases boundary : m = 2 ^ 52 ∧ binary64.minExponent < e
    · have kept : q = 100 * m := by omega
      have self : q * twoPow e / 100 = magnitude m e := by
        rw [kept, magnitude]
        push_cast
        ring
      rw [self]
      exact nearest_magnitude full least greatest
    · -- Both are multiples of four, so neither bound is met.
      refine ⟨full, least, greatest, ?_⟩
      rw [lowerEnd_eq boundary, upperEnd]
      exact between_hundredth_iff.mpr ⟨below, above, fun _ => by omega⟩

/-- The number is finite and the hundredfold of its mantissa is kept. -/
def KeepsHundredfold : Binary → Prop
  | finite _ mantissa _ => HundredfoldKept mantissa
  | _ => False

instance : (x : Binary) → Decidable x.KeepsHundredfold
  | finite _ mantissa _ => inferInstanceAs (Decidable (HundredfoldKept mantissa))
  | infinite _ => inferInstanceAs (Decidable False)
  | nan => inferInstanceAs (Decidable False)

/-- Natural numbers up to this one keep their hundredfold, whatever their digits. -/
def largestKept : Nat := 2 ^ 55 / 100

theorem keepsHundredfold_of_le {n : Nat} (sure : n ≤ largestKept) :
    (binary64.ofNat n).KeepsHundredfold := by
  rcases Nat.eq_zero_or_pos n with rfl | pos
  · exact Or.inl (by decide)
  have small : n ≤ 360287970189639 := sure
  have converted : binary64.ofNat n = finite false _ _ :=
    (nearest_natCast pos (by omega)).round_eq binary64_wide (Nat.cast_pos.mpr pos)
  rw [converted]
  change HundredfoldKept _
  have short : n.log2 < 49 := (Nat.log2_lt (by omega)).mpr (by omega)
  rcases Nat.lt_or_ge n.log2 48 with less | more
  · -- The mantissa ends in five zeros, so the product needs no more than 53 bits.
    obtain ⟨k, shift⟩ : ∃ k, 52 - n.log2 = k + 5 := ⟨47 - n.log2, by omega⟩
    have whole : 100 * (n * 2 ^ (k + 5)) = 128 * (25 * (n * 2 ^ k)) := by ring
    refine Or.inr ?_
    rw [shift, whole, Nat.mul_add_mod]
    norm_num
  · have shift : 52 - n.log2 = 4 := by omega
    refine Or.inl ?_
    rw [shift]
    omega

end DiskPrep.Binary
