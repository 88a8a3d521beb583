import DiskPrep.Disk.Plan
import DiskPrep.Proofs.Number.Shortest
import DiskPrep.Proofs.Text.Numeral

/-!
The texts of partition boundaries. A boundary is a hundredth of the total times the percentage,
computed in binary numbers, which have no place for most hundredths. On every disk that can be
addressed its text is nevertheless the decimal numeral of the exact value
(`boundaries_exact`). No size at all has a bare zero for its text (`sizeText_ne_zero`).
-/
namespace DiskPrep

open Binary Format

/-- `n` hundredths in decimal, with one place where the second would be a zero. -/
def hundredthsText (n : Nat) : Text :=
  decimal (n / 100) ++ '.' ::
    (if n % 100 = 0 then ['0']
    else if n % 10 = 0 then decimal (n / 10 % 10)
    else decimal (n / 10 % 10) ++ decimal (n % 10))

example : hundredthsText 235 = "2.35".toList ∧ hundredthsText 50 = "0.5".toList ∧
    hundredthsText 500 = "5.0".toList := by decide

theorem decimal_digit {d : Nat} (digit : d < 10) : decimal d = [d.digitChar] :=
  Nat.toDigits_of_lt_base digit

theorem fixedPoint_one (c : Nat) : fixedPoint 1 c = decimal (c / 10) ++ '.' :: decimal (c % 10) := by
  have digit : (decimal (c % 10)).length = 1 := by
    rw [decimal_digit (Nat.mod_lt c (by norm_num))]
    rfl
  simp [fixedPoint, digit]

theorem fixedPoint_two (c : Nat) :
    fixedPoint 2 c = decimal (c / 100) ++ '.' :: (decimal (c / 10 % 10) ++ decimal (c % 10)) := by
  have tens : c % 100 / 10 = c / 10 % 10 := by omega
  have ones : c % 100 % 10 = c % 10 := by omega
  have padded (d : Nat) (bound : d < 100) :
      List.replicate (2 - (decimal d).length) '0' ++ decimal d =
        decimal (d / 10) ++ decimal (d % 10) := by
    rcases Nat.lt_or_ge d 10 with short | long
    · rw [Nat.div_eq_of_lt short, Nat.mod_eq_of_lt short, decimal_digit short]
      rfl
    · have split : decimal (d / 10) ++ decimal (d % 10) = decimal d := by
        have := @Nat.toDigits_append_toDigits 10 (d / 10) (d % 10) (by norm_num) (by omega)
          (Nat.mod_lt d (by norm_num))
        rwa [Nat.div_add_mod] at this
      rw [← split, decimal_digit (show d / 10 < 10 by omega),
        decimal_digit (Nat.mod_lt d (by norm_num))]
      rfl
  have places := padded (c % 100) (Nat.mod_lt c (by norm_num))
  rw [tens, ones] at places
  simp [fixedPoint, places]

theorem hundredthsText_of_tenths {n : Nat} (tenths : n % 10 = 0) :
    hundredthsText n = fixedPoint 1 (n / 10) := by
  rw [fixedPoint_one, hundredthsText, Nat.div_div_eq_div_mul]
  by_cases whole : n % 100 = 0
  · have none : n / 10 % 10 = 0 := by omega
    rw [if_pos whole, none]
    rfl
  · rw [if_neg whole, if_pos tenths]

theorem hundredthsText_of_not_tenths {n : Nat} (hundredths : n % 10 ≠ 0) :
    hundredthsText n = fixedPoint 2 n := by
  rw [fixedPoint_two, hundredthsText, if_neg (by omega), if_neg hundredths]

theorem nearestEven_natCast (n : Nat) : nearestEven n = n :=
  (nearestEven_eq_iff (Nat.cast_nonneg n)).mpr
    ⟨by linarith, by linarith, fun _ => ⟨by linarith, by linarith⟩⟩

theorem sizeText_ofNat {n : Nat} (small : n < 2 ^ 53) :
    sizeText (binary64.ofNat n) = fixedPoint 1 (n * 10) := by
  have denotes := ofNat_denotes small
  have whole : (binary64.ofNat n).isWhole = true := denotes.isWhole_iff.mpr ⟨n, by simp⟩
  rw [sizeText, if_pos whole]
  obtain ⟨m, e, number, value⟩ := denotes
  have tenfold : nearestEven (magnitude m e * 10) = n * 10 := by
    rw [value]
    exact_mod_cast nearestEven_natCast (n * 10)
  rw [number, onePlaceText, signed, tenfold]
  rfl

theorem point_mem_fixedPoint {places : Nat} (some_places : places ≠ 0) (c : Nat) :
    '.' ∈ fixedPoint places c := by
  simp [fixedPoint, some_places]

theorem decimal_ne_zero {n : Nat} (nonzero : n ≠ 0) : decimal n ≠ ['0'] := by
  intro zero
  have value := Numeral.value_decimal n
  rw [zero] at value
  exact nonzero value.symm

/-- Only a number with binary places can have a fraction. -/
theorem fraction_of_not_isWhole {negative : Bool} {m : Nat} {e : Int}
    (fraction : ¬ (Binary.finite negative m e).isWhole = true) : m ≠ 0 ∧ e ≤ 0 := by
  have whole {n : Nat} (value : magnitude m e = n) : (Binary.finite false m e).isWhole = true := by
    have denotes : (Binary.finite false m e).Denotes (magnitude m e) := ⟨m, e, rfl, rfl⟩
    exact denotes.isWhole_iff.mpr ⟨n, by rw [value, Int.cast_natCast]⟩
  constructor
  · rintro rfl
    refine fraction (whole (n := 0) ?_)
    rw [magnitude, Nat.cast_zero, zero_mul]
  · by_contra above
    obtain ⟨k, rfl⟩ := Int.eq_ofNat_of_zero_le (not_le.mp above).le
    refine fraction (whole (n := m * 2 ^ k) ?_)
    rw [magnitude, twoPow, zpow_natCast]
    push_cast
    rfl

/-- No size is shown as a zero without places: a whole one has a place, and any other is not
zero. -/
theorem sizeText_ne_zero (size : Binary) : sizeText size ≠ ['0'] := by
  have without_point {text : Text} (shown : '.' ∈ text) : text ≠ ['0'] := by
    rintro rfl
    exact absurd shown (by decide)
  cases size with
  | infinite negative => cases negative <;> decide
  | nan => decide
  | finite negative m e =>
    cases negative with
    | true =>
      unfold sizeText
      split
      · exact fun zero => absurd (List.cons.inj zero).1 (by decide)
      · exact fun zero => absurd (List.cons.inj zero).1 (by decide)
    | false =>
      by_cases whole : (Binary.finite false m e).isWhole = true
      · rw [sizeText, if_pos whole]
        exact without_point (point_mem_fixedPoint one_ne_zero _)
      · obtain ⟨nonzero, fraction⟩ := fraction_of_not_isWhole whole
        obtain ⟨n, k, shortest⟩ := @exists_shortest? binary64 m e fraction
        rw [sizeText, if_neg whole]
        simp only [shortestText, signed, nonzero, if_false, shortest, Bool.false_eq_true,
          List.nil_append]
        cases k with
        | ofNat places =>
          refine decimal_ne_zero (Nat.mul_ne_zero (shortest?_ne_zero nonzero shortest) ?_)
          exact (Nat.pow_pos (by norm_num)).ne'
        | negSucc places => exact without_point (point_mem_fixedPoint (Nat.succ_ne_zero _) _)

section hundredths

variable {n m : Nat} {e : Int}

/-- Up to `2 ^ 50` hundredths the unit is less than a hundredth. -/
theorem fine_of_small (small : n < 2 ^ 50) (nearest : binary64.Nearest (n / 100) m e) :
    100 * twoPow e < 1 := by
  have error := nearest.error_size.1
  have full : (2 ^ 52 : Rat) * twoPow e ≤ magnitude m e := by
    have : 2 ^ 52 ≤ m := nearest.full.1
    exact mul_le_mul_of_nonneg_right (by exact_mod_cast this) (twoPow_pos e).le
  have bound : (n : Rat) < 2 ^ 50 := by exact_mod_cast small
  linarith

/-- No fraction of hundredths is rounded to a whole number. -/
theorem not_isWhole_hundredths (nearest : binary64.Nearest (n / 100) m e)
    (fine : 100 * twoPow e < 1) (fraction : n % 100 ≠ 0) :
    (Binary.finite false m e).isWhole = false := by
  have denotes : (Binary.finite false m e).Denotes (magnitude m e) := ⟨m, e, rfl, rfl⟩
  have nonneg : 0 ≤ magnitude m e := mul_nonneg (Nat.cast_nonneg m) (twoPow_pos e).le
  rw [Bool.eq_false_iff]
  intro whole
  obtain ⟨z, value⟩ := denotes.isWhole_iff.mp whole
  obtain ⟨q, rfl⟩ : ∃ q : Nat, z = q := by
    rw [value] at nonneg
    exact ⟨z.toNat, (Int.toNat_of_nonneg (Int.cast_nonneg_iff.mp nonneg)).symm⟩
  have reads := @readsBack_magnitude binary64 m e
  have hundredfold : magnitude m e = (100 * q : Nat) / 100 := by
    rw [value]
    push_cast
    ring
  rw [hundredfold] at reads
  have same := unique_hundredths nearest fine reads
  omega

theorem sizeText_of_shortest {c : Nat} {k : Int} (fraction : (Binary.finite false m e).isWhole = false)
    (nonzero : m ≠ 0) (shortest : shortest? binary64 m e = some (c, k)) :
    sizeText (.finite false m e) = positional c k := by
  simp [sizeText, fraction, shortestText, signed, nonzero, shortest]

theorem sizeText_hundredths (small : n < 2 ^ 50) :
    sizeText (binary64.round false (n / 100)) = hundredthsText n := by
  by_cases whole : n % 100 = 0
  · obtain ⟨q, rfl⟩ := Nat.dvd_of_mod_eq_zero whole
    have gigabytes : binary64.round false ((100 * q : Nat) / 100) = binary64.ofNat q := by
      rw [Format.ofNat]
      congr 1
      push_cast
      ring
    rw [gigabytes, sizeText_ofNat (by omega), hundredthsText_of_tenths (by omega)]
    congr 1
    omega
  · have low : (1 : Rat) ≤ n := by
      have : 1 ≤ n := by omega
      exact_mod_cast this
    have high : (n : Rat) < 2 ^ 50 := by exact_mod_cast small
    obtain ⟨m, e, nearest⟩ := @exists_nearest_size (n / 100) (by linarith) (by linarith)
    have fine := fine_of_small small nearest
    have full : 2 ^ 52 ≤ m := nearest.full.1
    have fraction := not_isWhole_hundredths nearest fine whole
    rw [nearest.round_eq binary64_wide (by linarith)]
    by_cases tenths : n % 10 = 0
    · have shortest : shortest? binary64 m e = some (n / 10, -1) :=
        @shortest?_hundredths m e n nearest fine (n / 10) 1 (by norm_num) (by omega) (by omega)
      rw [sizeText_of_shortest fraction (by omega) shortest, hundredthsText_of_tenths tenths]
      rfl
    · have shortest : shortest? binary64 m e = some (n, -2) :=
        @shortest?_hundredths m e n nearest fine n 0 (by norm_num) (by omega) (by omega)
      rw [sizeText_of_shortest fraction (by omega) shortest, hundredthsText_of_not_tenths tenths]
      rfl

end hundredths

namespace Plan

/-- The whole gigabytes of the greatest disk: `2 ^ 64` sectors of 512 bytes. -/
def largestDisk : Nat := 2 ^ 64 * 512 / 10 ^ 9

/-- The share of the system partition is rounded once, from the exact hundredth. -/
theorem system_eq {total percent : Nat} (low : 1 ≤ percent) (high : percent ≤ 100)
    (small : total * percent < 2 ^ 53) :
    (ofPercent total percent).system = binary64.round false ((total * percent : Nat) / 100) := by
  have clamped : clampPercent percent = percent := by
    unfold clampPercent
    omega
  have total_small : total < 2 ^ 53 := (Nat.le_mul_of_pos_right total low).trans_lt small
  have converted : (binary64.ofNat total).Denotes total := ofNat_denotes total_small
  have share : (binary64.ofNat percent).Denotes percent := ofNat_denotes (by omega)
  have hundred : (binary64.ofNat 100).Denotes (100 : Nat) := ofNat_denotes (by norm_num)
  have product : (binary64.round false (total * percent : Nat)).Denotes (total * percent : Nat) :=
    ofNat_denotes small
  rw [ofPercent, clamped, converted.mul_eq share, ← Nat.cast_mul,
    product.div_eq hundred (by norm_num)]
  rfl

/-- On every disk that can be addressed, a partition ends, and the next one starts, at the decimal
numeral of the exact share. -/
theorem boundaries_exact (total percent : Nat) (addressed : total ≤ largestDisk)
    (low : 1 ≤ percent) (high : percent ≤ 100) :
    (ofPercent total percent).systemBounds.finish = hundredthsText (total * percent) ∧
      ∀ bounds, (ofPercent total percent).rawBounds? = some bounds →
        bounds.start = hundredthsText (total * percent) := by
  have small : total * percent < 2 ^ 50 := by
    have : total ≤ 9444732965739 := addressed
    calc total * percent ≤ 9444732965739 * 100 := Nat.mul_le_mul this high
      _ < 2 ^ 50 := by norm_num
  have text : sizeText (ofPercent total percent).system = hundredthsText (total * percent) := by
    rw [system_eq low high (by omega)]
    exact sizeText_hundredths small
  refine ⟨text, ?_⟩
  intro bounds planned
  unfold rawBounds? at planned
  split at planned
  · rw [← Option.some.inj planned]
    exact text
  · cases planned

/-- Some hundredths of the greatest disk, where the unit is coarsest. -/
theorem boundary_on_largest_disk :
    (ofPercent 9444732965739 7).systemBounds.finish = "661131307601.73".toList ∧
      ∃ bounds, (ofPercent 9444732965739 7).rawBounds? = some bounds ∧
        bounds.start = "661131307601.73".toList := by
  obtain ⟨ends, starts⟩ := boundaries_exact 9444732965739 7 (by decide) (by decide) (by decide)
  have text : hundredthsText (9444732965739 * 7) = "661131307601.73".toList := by decide +kernel
  have planned : (ofPercent 9444732965739 7).rawBounds? =
      some ⟨"661131307601.73".toList, "9444732965739".toList⟩ := by decide +kernel
  exact ⟨ends.trans text, _, planned, (starts _ planned).trans text⟩

end Plan

end DiskPrep
