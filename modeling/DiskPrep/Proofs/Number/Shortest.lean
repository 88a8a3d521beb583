import DiskPrep.Proofs.Number.Value

/-!
The shortest text of a number that stands for a multiple of a hundredth. Where the unit is less
than a hundredth, no two such multiples have the same nearest number (`unique_hundredths`), so the
coarsest decimal grid on which the multiple lies is also the coarsest one with a point that reads
back (`shortest?_hundredths`), and the shortest text writes the multiple itself. Every number with
a fraction has a shortest text (`exists_shortest?`), and it is a zero only for zero
(`shortest?_ne_zero`).
-/
namespace DiskPrep

open Binary Format

theorem tenPow_pos (k : Int) : 0 < tenPow k :=
  zpow_pos (by norm_num) k

/-- The grids down to hundredths. -/
theorem tenPow_hundredths (j : Nat) : tenPow (j - 2) = (10 ^ j : Nat) / 100 := by
  rw [tenPow, zpow_sub₀ (by norm_num), zpow_natCast]
  norm_num

/-- A value between two that stand for a number stands for it too. -/
theorem Between.convex {low high x y z : Rat} {n : Nat} (first : Between low high x n)
    (last : Between low high z n) (xy : x ≤ y) (yz : y ≤ z) : Between low high y n := by
  refine ⟨first.1.trans xy, yz.trans last.2.1, ?_⟩
  intro odd
  exact ⟨(first.2.2 odd).1.trans_le xy, yz.trans_lt (last.2.2 odd).2⟩

namespace Binary

variable {f : Format} {m : Nat} {e k : Int}

theorem readsBack_magnitude : readsBack f m e (magnitude m e) = true := by
  rw [readsBack_iff]
  have lower := @lowerEnd_lt_magnitude f m e
  have upper := @magnitude_lt_upperEnd m e
  exact ⟨lower.le, upper.le, fun _ => ⟨lower, upper⟩⟩

/-- Two values that read back as one number are at most a unit apart. -/
theorem readsBack_near {x y : Rat} (first : readsBack f m e x = true)
    (second : readsBack f m e y = true) : x - y ≤ twoPow e := by
  have high := (readsBack_iff.mp first).2.1
  have low := le_lowerEnd.trans (readsBack_iff.mp second).1
  unfold upperEnd at high
  linarith

/-- The point is the only one of its grid that reads back. -/
structure OnlyPoint (f : Format) (m : Nat) (e k : Int) (n : Nat) : Prop where
  reads : readsBack f m e (n * tenPow k) = true
  only {other : Nat} : readsBack f m e (other * tenPow k) = true → other = n

theorem floor_toNat (x : Rat) : x.floor.toNat = ⌊x⌋₊ :=
  Int.floor_toNat x

theorem ceil_toNat (x : Rat) : x.ceil.toNat = ⌈x⌉₊ := by
  rw [← Int.ceil_toNat, Rat.ceil_eq_neg_floor_neg]
  congr 1

/-- The only point of a grid is one of the two neighbours of the number. -/
theorem OnlyPoint.neighbour {n : Nat} (point : OnlyPoint f m e k n) :
    n = ⌈magnitude m e / tenPow k⌉₊ ∨ n = ⌊magnitude m e / tenPow k⌋₊ := by
  have pos := tenPow_pos k
  have nonneg : 0 ≤ magnitude m e / tenPow k :=
    div_nonneg (mul_nonneg (Nat.cast_nonneg m) (twoPow_pos e).le) pos.le
  have reads := readsBack_iff.mp point.reads
  have itself := readsBack_iff.mp (@readsBack_magnitude f m e)
  rcases Nat.lt_or_ge n ⌈magnitude m e / tenPow k⌉₊ with less | more
  · right
    -- The point is at most the lower neighbour, which then stands between it and the number.
    have below : n ≤ ⌊magnitude m e / tenPow k⌋₊ := Nat.le_floor (Nat.lt_ceil.mp less).le
    refine (point.only (readsBack_iff.mpr (reads.convex itself ?_ ?_))).symm
    · exact mul_le_mul_of_nonneg_right (Nat.cast_le.mpr below) pos.le
    · exact (le_div_iff₀ pos).mp (Nat.floor_le nonneg)
  · left
    refine (point.only (readsBack_iff.mpr (itself.convex reads ?_ ?_))).symm
    · exact (div_le_iff₀ pos).mp (Nat.le_ceil _)
    · exact mul_le_mul_of_nonneg_right (Nat.cast_le.mpr more) pos.le

theorem gridPoint?_of_only {n : Nat} (point : OnlyPoint f m e k n) :
    gridPoint? f m e k = some n := by
  have neighbour := point.neighbour
  simp only [gridPoint?, floor_toNat, ceil_toNat]
  generalize magnitude m e / tenPow k = x at neighbour
  have reads_iff (other : Nat) : readsBack f m e (other * tenPow k) = true ↔ other = n := by
    refine ⟨point.only, ?_⟩
    rintro rfl
    exact point.reads
  by_cases upper : ⌈x⌉₊ = n
  · by_cases lower : ⌊x⌋₊ = n
    · simp [reads_iff, upper, lower]
    · simp [reads_iff, upper, lower]
  · have lower : ⌊x⌋₊ = n := by
      rcases neighbour with above | below
      · exact absurd above.symm upper
      · exact below.symm
    simp [reads_iff, upper, lower]

theorem gridPoint?_of_none (nothing : ∀ n : Nat, readsBack f m e (n * tenPow k) = false) :
    gridPoint? f m e k = none := by
  simp [gridPoint?, nothing]

/-- The grids are tried from the coarsest down. -/
theorem grids_sorted : (grids m e).Pairwise (· > ·) := by
  rw [grids, List.pairwise_map]
  refine List.pairwise_lt_range.imp ?_
  intro i j less
  omega

theorem mem_grids (low : e ≤ k) (high : k ≤ 0) : k ∈ grids m e := by
  rw [grids, List.mem_map]
  generalize (decimal _).length = top
  refine ⟨(top - k).toNat, List.mem_range.mpr ?_, ?_⟩ <;> omega

/-- The shortest text is a point of the coarsest grid that has one. -/
theorem shortest?_of_only {n : Nat} (point : OnlyPoint f m e k n) (tried : k ∈ grids m e)
    (coarser : ∀ k', k < k' → ∀ n : Nat, readsBack f m e (n * tenPow k') = false) :
    shortest? f m e = some (n, k) := by
  obtain ⟨before, after, split⟩ := List.append_of_mem tried
  have sorted := @grids_sorted m e
  rw [split, List.pairwise_append] at sorted
  refine List.findSome?_eq_some_iff.mpr ⟨before, k, after, split, ?_, ?_⟩
  · rw [gridPoint?_of_only point]
    rfl
  · intro k' earlier
    have less : k < k' := sorted.2.2 k' earlier k List.mem_cons_self
    rw [gridPoint?_of_none (coarser k' less)]
    rfl

theorem reads_of_gridPoint? {n : Nat} (found : gridPoint? f m e k = some n) :
    readsBack f m e (n * tenPow k) = true := by
  simp only [gridPoint?] at found
  split at found
  next upper =>
    rw [← Option.some.inj found]
    exact (Bool.and_eq_true_iff.mp upper).1
  next =>
    split at found
    next lower =>
      rw [← Option.some.inj found]
      exact lower
    next => cases found

/-- A grid on which the number itself lies has a point that reads back. -/
theorem gridPoint?_ne_none {n : Nat} (lies : magnitude m e = n * tenPow k) :
    gridPoint? f m e k ≠ none := by
  have quotient : magnitude m e / tenPow k = n := by
    rw [lies, mul_div_cancel_right₀ _ (tenPow_pos k).ne']
  have reads : readsBack f m e (n * tenPow k) = true := by
    rw [← lies]
    exact readsBack_magnitude
  simp [gridPoint?, quotient, floor_toNat, ceil_toNat, reads]

/-- A number with a fraction has a shortest text: it lies on the decimal grid with as many places
as it has binary ones. -/
theorem exists_shortest? (fraction : e ≤ 0) : ∃ n k, shortest? f m e = some (n, k) := by
  have lies : magnitude m e = (m * 5 ^ (-e).toNat : Nat) * tenPow e := by
    obtain ⟨places, rfl⟩ : ∃ places : Nat, e = -places := ⟨(-e).toNat, by omega⟩
    have ten : (10 : Rat) ^ places = 5 ^ places * 2 ^ places := by rw [← mul_pow]; norm_num
    rw [magnitude, twoPow, tenPow, neg_neg, Int.toNat_natCast, zpow_neg, zpow_neg, zpow_natCast,
      zpow_natCast, ten]
    push_cast
    field_simp
  have heard : shortest? f m e ≠ none := by
    intro nothing
    have unfound := List.findSome?_eq_none_iff.mp nothing e (mem_grids le_rfl fraction)
    exact gridPoint?_ne_none lies (Option.map_eq_none_iff.mp unfound)
  obtain ⟨⟨n, k⟩, found⟩ := Option.ne_none_iff_exists'.mp heard
  exact ⟨n, k, found⟩

/-- Zero is the shortest text of no other number. -/
theorem shortest?_ne_zero {n : Nat} (nonzero : m ≠ 0) (shortest : shortest? f m e = some (n, k)) :
    n ≠ 0 := by
  rintro rfl
  obtain ⟨grid, -, here⟩ := List.exists_of_findSome?_eq_some shortest
  obtain ⟨point, found, same⟩ := Option.map_eq_some_iff.mp here
  cases same
  have low := le_lowerEnd.trans (readsBack_iff.mp (reads_of_gridPoint? found)).1
  have unit : (1 : Rat) ≤ m := Nat.one_le_cast.mpr (Nat.one_le_iff_ne_zero.mpr nonzero)
  have positive : 0 < (m - 1 / 2) * twoPow e := mul_pos (by linarith) (twoPow_pos e)
  rw [Nat.cast_zero, zero_mul] at low
  exact absurd low (not_le.mpr positive)

section hundredths

variable {n : Nat}

/-- Where the unit is less than a hundredth, no other multiple of a hundredth reads back. -/
theorem unique_hundredths (nearest : binary64.Nearest (n / 100) m e) (fine : 100 * twoPow e < 1)
    {other : Nat} (reads : readsBack binary64 m e (other / 100) = true) : other = n := by
  have itself := readsBack_iff.mpr nearest.between
  have upper : other < n + 1 := by
    have near := readsBack_near reads itself
    have : (other : Rat) < (n + 1 : Nat) := by push_cast; linarith
    exact Nat.cast_lt.mp this
  have lower : n < other + 1 := by
    have near := readsBack_near itself reads
    have : (n : Rat) < (other + 1 : Nat) := by push_cast; linarith
    exact Nat.cast_lt.mp this
  omega

theorem reads_hundredths_iff (nearest : binary64.Nearest (n / 100) m e)
    (fine : 100 * twoPow e < 1) {c j : Nat} :
    readsBack binary64 m e (c * tenPow (j - 2)) = true ↔ c * 10 ^ j = n := by
  have point : (c : Rat) * tenPow (j - 2) = (c * 10 ^ j : Nat) / 100 := by
    rw [tenPow_hundredths, Nat.cast_mul, mul_div_assoc]
  rw [point]
  constructor
  · exact unique_hundredths nearest fine
  · rintro rfl
    exact readsBack_iff.mpr nearest.between

/-- The shortest text of `n` hundredths leaves out the zeros at their end. -/
theorem shortest?_hundredths (nearest : binary64.Nearest (n / 100) m e)
    (fine : 100 * twoPow e < 1) {c j : Nat} (places : j ≤ 2) (shown : c * 10 ^ j = n)
    (last : ¬ 10 ^ (j + 1) ∣ n) : shortest? binary64 m e = some (c, (j : Int) - 2) := by
  have reads_iff {c j : Nat} := @reads_hundredths_iff m e n nearest fine c j
  have low : e < -2 := by
    have : twoPow e < twoPow (-2) := by
      have quarter : twoPow (-2) = 1 / 4 := by decide +kernel
      linarith
    exact twoPow_lt_iff.mp this
  refine shortest?_of_only ⟨reads_iff.mpr shown, ?_⟩ (mem_grids (by omega) (by omega)) ?_
  · intro other reads
    have same : other * 10 ^ j = c * 10 ^ j := (reads_iff.mp reads).trans shown.symm
    exact Nat.eq_of_mul_eq_mul_right (Nat.pow_pos (by norm_num)) same
  · intro k less c'
    -- A point of a coarser grid has one more zero at its end.
    obtain ⟨i, rfl⟩ : ∃ i : Nat, k = ((j + 1 + i : Nat) : Int) - 2 :=
      ⟨(k + 1 - j).toNat, by omega⟩
    rw [Bool.eq_false_iff]
    intro reads
    have shown' := reads_iff.mp reads
    rw [pow_add, ← mul_assoc, mul_right_comm] at shown'
    exact last ⟨_, (mul_comm _ _).trans shown' |>.symm⟩

end hundredths

end Binary

end DiskPrep
