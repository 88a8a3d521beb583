import DiskPrep.Disk.Step
import DiskPrep.Proofs.Number.Hundredfold

/-!
Whether a plan stays inside its disk. The share of the system partition takes three roundings:
the total, the product and the quotient. They cannot lift less than the whole disk up to it
(`Roundings.hundredth_lt`), but they can miss the whole disk itself by some units, in either
direction, for totals beyond `2 ^ 55 / 100`.
-/
namespace DiskPrep

open Binary Format

namespace Plan

/-- The roundings that lead to the share of the system partition: the total is converted, the
product with the percentage and its hundredth are rounded, each from the exact value. -/
structure Roundings (total percent : Nat) where
  converted : Rounding total
  product : Rounding (converted.value * percent)
  hundredth : Rounding (product.value / 100)

theorem exists_roundings {total percent : Nat} (pos : 0 < total) (bounded : total < Numeral.longLimit)
    (least : 1 ≤ percent) (most : percent ≤ 100) : Nonempty (Roundings total percent) := by
  have total_low : (1 : Rat) ≤ total := by exact_mod_cast pos
  have total_high : (total : Rat) ≤ 2 ^ 64 := by
    have : total ≤ 2 ^ 64 := bounded.le
    exact_mod_cast this
  have percent_low : (1 : Rat) ≤ percent := by exact_mod_cast least
  have percent_high : (percent : Rat) ≤ 100 := by exact_mod_cast most
  obtain ⟨converted⟩ := @exists_rounding total (by linarith) (by linarith)
  have converted_error := converted.error_size
  have product_low : 1 / 2 ≤ converted.value * percent := by nlinarith
  have product_high : converted.value * percent ≤ 2 ^ 65 * 100 := by nlinarith
  obtain ⟨product⟩ := @exists_rounding (converted.value * percent) (by linarith) (by linarith)
  have product_error := product.error_size
  obtain ⟨hundredth⟩ := @exists_rounding (product.value / 100) (by linarith) (by linarith)
  exact ⟨converted, product, hundredth⟩

theorem clampPercent_bounds (percent : Nat) :
    1 ≤ clampPercent percent ∧ clampPercent percent ≤ 100 := by
  unfold clampPercent
  omega

section roundings

variable {total percent : Nat}

/-- The numbers of a plan are those of its roundings. -/
theorem Roundings.ofPercent_eq (r : Roundings total (clampPercent percent)) (pos : 0 < total) :
    (ofPercent total percent).totalSize = r.converted.number ∧
      (ofPercent total percent).system = r.hundredth.number := by
  have hundred : (binary64.ofNat 100).Denotes (100 : Nat) := ofNat_denotes (by norm_num)
  have share : (binary64.ofNat (clampPercent percent)).Denotes (clampPercent percent : Nat) :=
    ofNat_denotes (by have := clampPercent_bounds percent; omega)
  obtain ⟨low, high⟩ := clampPercent_bounds percent
  have share_pos : (0 : Rat) < clampPercent percent := by exact_mod_cast low
  have converted : binary64.ofNat total = r.converted.number :=
    r.converted.round_eq (Nat.cast_pos.mpr pos)
  have product : Binary.mul binary64 r.converted.number (binary64.ofNat (clampPercent percent)) =
      r.product.number := by
    rw [r.converted.denotes.mul_eq share]
    exact r.product.round_eq (mul_pos r.converted.value_pos share_pos)
  have hundredth : Binary.div binary64 r.product.number (binary64.ofNat 100) =
      r.hundredth.number := by
    rw [r.product.denotes.div_eq hundred (by norm_num)]
    exact r.hundredth.round_eq (div_pos r.product.value_pos (by norm_num))
  refine ⟨converted, ?_⟩
  rw [ofPercent, converted, product, hundredth]

/-- Less than the whole disk stays less after all roundings. -/
theorem Roundings.hundredth_lt (r : Roundings total percent) (part : percent < 100) :
    r.hundredth.value < r.converted.value := by
  have product_error := r.product.error_size.1
  have hundredth_error := r.hundredth.error_size.1
  have converted_pos := r.converted.value_pos
  have share : (percent : Rat) ≤ 99 := by exact_mod_cast Nat.le_of_lt_succ part
  have reduced : r.converted.value * percent ≤ r.converted.value * 99 :=
    mul_le_mul_of_nonneg_left share converted_pos.le
  linarith

/-- A plan for the whole disk takes all of it exactly when its hundredfold is kept. -/
theorem Roundings.hundredth_eq_iff (r : Roundings total percent) (whole : percent = 100) :
    r.hundredth.value = r.converted.value ↔ HundredfoldKept r.converted.mantissa := by
  subst whole
  have converted := r.converted.nearest
  have pos : 0 < r.product.value / 100 := div_pos r.product.value_pos (by norm_num)
  rw [r.converted.value_eq_iff r.hundredth pos]
  exact nearest_hundredth_iff converted.full converted.least converted.greatest r.product.nearest

end roundings

/-- A raw partition is made exactly when the plan leaves room for one. -/
theorem createRaw_mem_forPlan_iff {disk : Path} {plan : Plan} {force : Bool} {delay : Delay} :
    (∃ bounds, Step.createRawPartition disk bounds ∈ Step.forPlan disk plan force delay) ↔
      plan.hasRaw = true := by
  have absent (bounds : Bounds) : Step.createRawPartition disk bounds ∉
      (if force then [Step.releaseMounts (partitionPath disk Step.systemPartition)] else []) := by
    split <;> simp
  cases room : plan.hasRaw with
  | true => simp [Step.forPlan, rawBounds?, room]
  | false => simp [Step.forPlan, rawBounds?, room, absent]

/-- The system partition is no greater than the disk, and a raw partition is planned, and made,
exactly on a disk of some size of which the system partition does not take the whole. -/
structure StaysInside (plan : Plan) (percent : Nat) : Prop where
  within : plan.system.AtMost plan.totalSize
  raw : plan.rawBounds?.isSome = true ↔ 0 < plan.total ∧ percent < 100
  made (disk : Path) (force : Bool) (delay : Delay) :
    (∃ bounds, Step.createRawPartition disk bounds ∈ Step.forPlan disk plan force delay) ↔
      0 < plan.total ∧ percent < 100

theorem staysInside_iff {plan : Plan} {percent : Nat} {total system : Rat}
    (totalSize : plan.totalSize.Denotes total) (share : plan.system.Denotes system) :
    plan.StaysInside percent ↔
      system ≤ total ∧ (system < total ↔ 0 < plan.total ∧ percent < 100) := by
  have within : plan.system.AtMost plan.totalSize ↔ system ≤ total := share.atMost_iff totalSize
  have hasRaw : plan.hasRaw = true ↔ system < total := share.less_iff totalSize
  have planned : plan.rawBounds?.isSome = true ↔ plan.hasRaw = true := by
    unfold rawBounds?
    split <;> simp [*]
  constructor
  · intro inside
    exact ⟨within.mp inside.within, by rw [← hasRaw, ← planned, inside.raw]⟩
  · rintro ⟨most, raw⟩
    refine ⟨within.mpr most, by rw [planned, hasRaw, raw], ?_⟩
    intro disk force delay
    rw [createRaw_mem_forPlan_iff, hasRaw, raw]

/-- A disk without a size is planned as one without a system partition. -/
theorem ofPercent_zero (percent : Nat) :
    (ofPercent 0 percent).totalSize.Denotes 0 ∧ (ofPercent 0 percent).system.Denotes 0 := by
  have share : (binary64.ofNat (clampPercent percent)).Denotes (clampPercent percent : Nat) :=
    ofNat_denotes (by have := clampPercent_bounds percent; omega)
  have hundred : (binary64.ofNat 100).Denotes (100 : Nat) := ofNat_denotes (by norm_num)
  have zero : (binary64.ofNat 0).Denotes (0 : Nat) := ofNat_denotes (by norm_num)
  have nothing : binary64.round false 0 = binary64.ofNat 0 := rfl
  rw [Nat.cast_zero] at zero
  refine ⟨zero, ?_⟩
  rw [ofPercent, zero.mul_eq share, zero_mul, nothing, zero.div_eq hundred (by norm_num), zero_div,
    nothing]
  exact zero

/-- A plan stays inside its disk exactly when it is for less than the whole of it, or the
conversion of the total keeps its hundredfold. -/
theorem staysInside_ofPercent_iff (total percent : Nat) (bounded : total < Numeral.longLimit) :
    (ofPercent total percent).StaysInside percent ↔
      percent < 100 ∨ (ofPercent total percent).totalSize.KeepsHundredfold := by
  rcases Nat.eq_zero_or_pos total with rfl | pos
  · obtain ⟨zero, nothing⟩ := ofPercent_zero percent
    rw [staysInside_iff zero nothing]
    have kept : (ofPercent 0 percent).totalSize.KeepsHundredfold := Or.inl (by decide)
    have total_eq : (ofPercent 0 percent).total = 0 := rfl
    simp [kept, total_eq]
  · obtain ⟨low, high⟩ := clampPercent_bounds percent
    obtain ⟨r⟩ := exists_roundings pos bounded low high
    obtain ⟨totalSize, system⟩ := r.ofPercent_eq pos
    have totalDenotes : (ofPercent total percent).totalSize.Denotes r.converted.value :=
      totalSize ▸ r.converted.denotes
    have systemDenotes : (ofPercent total percent).system.Denotes r.hundredth.value :=
      system ▸ r.hundredth.denotes
    have total_eq : (ofPercent total percent).total = total := rfl
    rw [staysInside_iff totalDenotes systemDenotes, total_eq, totalSize]
    rcases Nat.lt_or_ge percent 100 with part | whole
    · have less := r.hundredth_lt (by unfold clampPercent; omega)
      simp [less, less.le, pos, part]
    · have clamped : clampPercent percent = 100 := by
        unfold clampPercent
        omega
      have kept : r.converted.number.KeepsHundredfold ↔ r.hundredth.value = r.converted.value :=
        (r.hundredth_eq_iff clamped).symm
      have not_part : ¬ percent < 100 := not_lt.mpr whole
      rw [kept, or_iff_right not_part, and_iff_right pos, iff_false_right not_part]
      constructor
      · rintro ⟨most, not_less⟩
        exact le_antisymm most (not_lt.mp not_less)
      · intro same
        exact ⟨same.le, same.not_lt⟩

/-- A plan stays inside its disk exactly when it is for less than the whole of it, or the total,
converted, keeps its hundredfold. Every total up to `2 ^ 55 / 100` does. -/
theorem inside_iff (total percent : Nat) (bounded : total < Numeral.longLimit) :
    ((ofPercent total percent).StaysInside percent ↔
      percent < 100 ∨ (ofPercent total percent).totalSize.KeepsHundredfold) ∧
    (total ≤ Binary.largestKept → (ofPercent total percent).StaysInside percent) := by
  have condition := staysInside_ofPercent_iff total percent bounded
  refine ⟨condition, ?_⟩
  intro sure
  exact condition.mpr (Or.inr (keepsHundredfold_of_le sure))

/-- The greatest odd total that is converted exactly. -/
theorem inside_at_full_precision : (ofPercent 9007199254740991 100).StaysInside 100 :=
  (inside_iff 9007199254740991 100 (by decide)).1.mpr (Or.inr (by decide +kernel))

/-- The whole disk is asked for, and yet it is missed: a second partition is planned behind the
first, or the first ends behind the disk. -/
theorem whole_disk_missed :
    (ofPercent 360287970189641 100).rawBounds? =
        some ⟨"360287970189640.94".toList, "360287970189641".toList⟩ ∧
      ¬ (ofPercent 360287970189641 100).StaysInside 100 ∧
      (ofPercent 360287970189643 100).systemBounds.finish = "360287970189643.06".toList ∧
      ¬ (ofPercent 360287970189643 100).StaysInside 100 := by
  have planned : (ofPercent 360287970189641 100).rawBounds? =
      some ⟨"360287970189640.94".toList, "360287970189641".toList⟩ := by decide +kernel
  have behind : Binary.less (ofPercent 360287970189643 100).totalSize
      (ofPercent 360287970189643 100).system = true := by decide +kernel
  refine ⟨planned, ?_, by decide +kernel, ?_⟩
  · intro inside
    have part := (inside.raw.mp (by rw [planned]; rfl)).2
    exact absurd part (by decide)
  · intro inside
    have not_behind := inside.within.not_less
    rw [behind] at not_behind
    exact Bool.noConfusion not_behind

end Plan

end DiskPrep
