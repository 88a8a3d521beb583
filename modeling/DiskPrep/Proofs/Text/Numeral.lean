import DiskPrep.Text.Numeral
import Mathlib.Data.Nat.Digits.Defs

/-!
Which texts are numerals. A bounded numeral is read exactly when it is one or more digits, with
or without a plus sign before them, whose value stays below the bound (`below?_eq_some_iff`). The
same numerals are read by a reader that takes one digit after the other and gives up at the first
that would take its number to the bound (`below?_eq_readWithin?`), since further digits never make
a number smaller.
-/
namespace DiskPrep.Numeral

/-- The text writes the number: decimal digits, any zeros in front, after an optional plus. -/
def Writes (t : Text) (n : Nat) : Prop :=
  ∃ digits, (t = digits ∨ t = '+' :: digits) ∧ digits ≠ [] ∧
    (∀ c ∈ digits, isDigit c = true) ∧ value digits = n

theorem ofDigits?_eq_some_iff {t : Text} {n : Nat} :
    ofDigits? t = some n ↔ t ≠ [] ∧ (∀ c ∈ t, isDigit c = true) ∧ value t = n := by
  simp [ofDigits?, and_assoc]

theorem below?_eq_some_iff {bound n : Nat} {t : Text} :
    below? bound t = some n ↔ Writes t n ∧ n < bound := by
  simp only [below?, Option.filter_eq_some_iff, ofDigits?_eq_some_iff, decide_eq_true_iff]
  refine and_congr_left' ?_
  constructor
  · intro read
    split at read
    next rest => exact ⟨rest, Or.inr rfl, read⟩
    next => exact ⟨t, Or.inl rfl, read⟩
  · rintro ⟨digits, rfl | rfl, read⟩
    · split
      next rest =>
        -- A sign is no digit, so digits alone do not begin with one.
        exact absurd (read.2.1 '+' List.mem_cons_self) (by decide)
      next => exact read
    · exact read

theorem isDigit_iff {c : Char} : isDigit c = true ↔ '0' ≤ c ∧ c ≤ '9' := by
  simp only [isDigit, Bool.and_eq_true, decide_eq_true_eq]

theorem not_isBlank_of_isDigit {c : Char} (digit : isDigit c = true) : Text.isBlank c = false := by
  simp only [isDigit_iff, Char.le_def, UInt32.le_iff_toNat_le] at digit
  obtain ⟨above, under⟩ : 48 ≤ c.toNat ∧ c.toNat ≤ 57 := digit
  simp only [Text.isBlank, Bool.or_eq_false_iff, Bool.and_eq_false_iff, decide_eq_false_iff_not,
    beq_eq_false_iff_ne]
  omega

/-- The value of digits is the number that they write in base ten, the last digit counting ones. -/
theorem value_eq_ofDigits (digits : Text) :
    value digits = Nat.ofDigits 10 (digits.reverse.map fun c => c.toNat - '0'.toNat) := by
  rw [value, List.foldl_eq_foldr_reverse, Nat.ofDigits_eq_foldr, List.foldr_map]
  simp only [Nat.cast_id, Nat.add_comm]

theorem Writes.not_isBlank {t : Text} {n : Nat} (writes : Writes t n) :
    ∀ c ∈ t, Text.isBlank c = false := by
  obtain ⟨digits, rfl | rfl, -, allDigits, -⟩ := writes
  · exact fun c member => not_isBlank_of_isDigit (allDigits c member)
  · refine List.forall_mem_cons.mpr ⟨by decide, ?_⟩
    exact fun c member => not_isBlank_of_isDigit (allDigits c member)

section within

def appended (n : Nat) (c : Char) : Nat := 10 * n + (c.toNat - '0'.toNat)

/-- One more digit behind a number, refused where the character is none or where the number would
reach the bound. -/
def appendWithin? (bound n : Nat) (c : Char) : Option Nat :=
  if isDigit c ∧ appended n c < bound then some (appended n c) else none

/-- What stands behind a plus sign, or the whole text where there is none. -/
def unsigned : Text → Text
  | '+' :: rest => rest
  | t => t

/-- The number that one or more digits write, read one after the other below the bound. -/
def readWithin? (bound : Nat) (digits : Text) : Option Nat :=
  if digits = [] then none else digits.foldlM (appendWithin? bound) 0

theorem le_foldl_appended (digits : Text) (n : Nat) : n ≤ digits.foldl appended n := by
  induction digits generalizing n with
  | nil => exact Nat.le_refl n
  | cons c rest ih =>
    have grown : n ≤ appended n c := by
      unfold appended
      omega
    exact Nat.le_trans grown (ih (appended n c))

variable {bound n m : Nat}

theorem foldlM_appendWithin?_eq_some_iff {digits : Text} (inside : n < bound) :
    digits.foldlM (appendWithin? bound) n = some m ↔
      (∀ c ∈ digits, isDigit c = true) ∧ digits.foldl appended n = m ∧ m < bound := by
  induction digits generalizing n with
  | nil =>
    rw [List.foldlM_nil, List.foldl_nil]
    constructor
    · rintro ⟨⟩
      exact ⟨List.forall_mem_nil _, rfl, inside⟩
    · rintro ⟨-, rfl, -⟩
      rfl
  | cons c rest ih =>
    rw [List.foldlM_cons, List.forall_mem_cons, List.foldl_cons, appendWithin?]
    split
    next fits =>
      rw [Option.bind_eq_bind, Option.bind_some, ih fits.2, and_assoc, and_iff_right fits.1]
    next refused =>
      -- A number that has reached the bound is not below it at the end either.
      refine iff_of_false (by simp) ?_
      rintro ⟨⟨digit, -⟩, rfl, below⟩
      exact refused ⟨digit, Nat.lt_of_le_of_lt (le_foldl_appended rest _) below⟩

/-- No number wraps on the way, however many digits there are. -/
theorem below?_eq_readWithin? (positive : 0 < bound) (t : Text) :
    below? bound t = readWithin? bound (unsigned t) := by
  have same (digits : Text) : (ofDigits? digits).filter (· < bound) = readWithin? bound digits := by
    ext m
    rw [Option.filter_eq_some_iff, ofDigits?_eq_some_iff, decide_eq_true_iff, readWithin?]
    split
    next empty => simp [empty]
    next nonempty =>
      rw [foldlM_appendWithin?_eq_some_iff positive, and_iff_right nonempty, and_assoc]
      rfl
  calc below? bound t = (ofDigits? (unsigned t)).filter (· < bound) := by
        unfold below?
        split
        next rest => rfl
        next plain => rw [unsigned]; exact plain
    _ = readWithin? bound (unsigned t) := same (unsigned t)

end within

theorem isDigit_of_mem_decimal {c : Char} {n : Nat} (member : c ∈ decimal n) :
    isDigit c = true := by
  have digit : c.isDigit = true := Nat.isDigit_of_mem_toDigits (by decide) (by decide) member
  simpa [isDigit, Char.isDigit, Char.le_def] using digit

theorem value_decimal (n : Nat) : value (decimal n) = n := Nat.ofDigitChars_ten_toDigits

theorem writes_decimal (n : Nat) : Writes (decimal n) n :=
  ⟨decimal n, Or.inl rfl, Nat.toDigits_ne_nil, fun _ => isDigit_of_mem_decimal, value_decimal n⟩

end DiskPrep.Numeral
