import DiskPrep.Proofs.Run.Told
import DiskPrep.Proofs.Text.Numeral
import DiskPrep.Proofs.Text.Trim
import DiskPrep.Settings

/-!
What changes the settings of a run. A value of the environment variable counts exactly when it is
the numeral of a share from 1 to 100 with blanks around it (`readPercent?_eq_some_iff`), however
many zeros it begins with. Any other value is told of and changes nothing, and a request for the
whole disk wins over every value.
-/
namespace DiskPrep.Settings

open Workflow

/-- The text writes the share: digits for a number from 1 to 100 in base ten, after an optional plus
sign, with nothing but blanks on either side. -/
def IsShare (raw : Text) (percent : Nat) : Prop :=
  (∃ front sign digits back : Text, raw = front ++ (sign ++ digits) ++ back ∧
    Text.AllBlank front ∧ Text.AllBlank back ∧ (sign = [] ∨ sign = ['+']) ∧
    digits ≠ [] ∧ (∀ c ∈ digits, '0' ≤ c ∧ c ≤ '9') ∧
    Nat.ofDigits 10 (digits.reverse.map fun c => c.toNat - '0'.toNat) = percent) ∧
  1 ≤ percent ∧ percent ≤ 100

def ignoredLine (raw : Text) : LogLine :=
  ⟨.warning, "Ignoring RECDISK_SYSTEM_RATIO=".toList ++ Text.quoted raw ++
    ": expected an integer between 1 and 100".toList⟩

theorem isShare_iff {raw : Text} {percent : Nat} :
    IsShare raw percent ↔
      (∃ front numeral back, raw = front ++ numeral ++ back ∧ Text.AllBlank front ∧
        Text.AllBlank back ∧ Numeral.Writes numeral percent) ∧ 1 ≤ percent ∧ percent ≤ 100 := by
  simp only [IsShare, Numeral.Writes, Numeral.isDigit_iff, Numeral.value_eq_ofDigits]
  refine and_congr_left' ?_
  constructor
  · rintro ⟨front, sign, digits, back, padded, frontBlank, backBlank, signed, digitsOnly⟩
    refine ⟨front, sign ++ digits, back, padded, frontBlank, backBlank, digits, ?_, digitsOnly⟩
    rcases signed with rfl | rfl
    · exact Or.inl rfl
    · exact Or.inr rfl
  · rintro ⟨front, numeral, back, padded, frontBlank, backBlank, digits, rfl | rfl, digitsOnly⟩
    · exact ⟨front, [], _, back, padded, frontBlank, backBlank, Or.inl rfl, digitsOnly⟩
    · exact ⟨front, ['+'], _, back, padded, frontBlank, backBlank, Or.inr rfl, digitsOnly⟩

theorem readPercent?_eq_some_iff {raw : Text} {percent : Nat} :
    readPercent? raw = some percent ↔ IsShare raw percent := by
  simp only [readPercent?, Option.filter_eq_some_iff, Numeral.below?_eq_some_iff,
    Bool.and_eq_true, decide_eq_true_eq, isShare_iff]
  constructor
  · rintro ⟨⟨writes, -⟩, share⟩
    obtain ⟨front, back, frontBlank, backBlank, padded⟩ := Text.exists_trim raw
    exact ⟨⟨front, Text.trim raw, back, padded, frontBlank, backBlank, writes⟩, share⟩
  · rintro ⟨⟨front, numeral, back, rfl, frontBlank, backBlank, writes⟩, share⟩
    have small : percent < Numeral.byteLimit := Nat.lt_of_le_of_lt share.2 (by decide)
    rw [Text.trim_append_right _ backBlank, Text.trim_append_left frontBlank,
      Text.trim_of_no_blank writes.not_isBlank]
    exact ⟨⟨writes, small⟩, share⟩

theorem exists_isShare_iff {raw : Text} :
    (readPercent? raw).isSome = true ↔ ∃ percent, IsShare raw percent := by
  simp only [Option.isSome_iff_exists, readPercent?_eq_some_iff]

instance (raw : Text) (percent : Nat) : Decidable (IsShare raw percent) :=
  decidable_of_iff _ readPercent?_eq_some_iff

instance (raw : Text) : Decidable (∃ percent, IsShare raw percent) :=
  decidable_of_iff _ exists_isShare_iff

/-- A value that is read is not told of. -/
theorem lines_of_share {raw : Text} {percent : Nat} (share : IsShare raw percent) :
    (overrideNotices (some raw)).map Notice.line = [] := by
  rw [overrideNotices, if_pos (exists_isShare_iff.mpr ⟨percent, share⟩), List.map_nil]

theorem lines_of_no_share {raw : Text} (refused : ¬ ∃ percent, IsShare raw percent) :
    (overrideNotices (some raw)).map Notice.line = [ignoredLine raw] := by
  rw [overrideNotices, if_neg (mt exists_isShare_iff.mp refused)]
  rfl

section override

variable {base : Settings} {request : CommandLine.Request} {raw : Text}

theorem override_all (all : request.all = true) (given? : Option Text) :
    base.override request given? = { base with systemPercent := 100 } := by
  rw [override, percentFrom, if_pos all]
  rfl

theorem override_share {percent : Nat} (part : request.all = false) (share : IsShare raw percent) :
    base.override request (some raw) = { base with systemPercent := percent } := by
  rw [override, percentFrom, part, Option.bind_some, readPercent?_eq_some_iff.mpr share]
  rfl

theorem override_no_share (part : request.all = false) (refused : ¬ ∃ percent, IsShare raw percent) :
    base.override request (some raw) = base := by
  have unread : readPercent? raw = none :=
    Option.not_isSome_iff_eq_none.mp (mt exists_isShare_iff.mp refused)
  rw [override, percentFrom, part, Option.bind_some, unread]
  rfl

theorem override_none (part : request.all = false) : base.override request none = base := by
  rw [override, percentFrom, part]
  rfl

end override

/-- The share of the system partition is overridden by numerals from 1 to 100 and by nothing else.
A request for the whole disk makes it 100; otherwise a value of the variable that writes a share
makes it that share, and with any other value or none it stays. The other settings always stay. A
value that is no share is told of in one line, and nothing else is. The numeral may be read digit by
digit in eight bits, up to a digit that does not fit: no value wraps into the range. -/
theorem override_accepts_only_shares (base : Settings) (request : CommandLine.Request) {σ : Type}
    (host : Host σ) (state : σ) :
    let told (given? : Option Text) : List LogLine :=
      ((tellEach (overrideNotices given?)).run host state).log
    (request.all = true →
      ∀ given?, base.override request given? = { base with systemPercent := 100 }) ∧
    (∀ raw percent, IsShare raw percent → told (some raw) = [] ∧
      (request.all = false →
        base.override request (some raw) = { base with systemPercent := percent })) ∧
    (∀ raw, (¬ ∃ percent, IsShare raw percent) → told (some raw) = [ignoredLine raw] ∧
      (request.all = false → base.override request (some raw) = base)) ∧
    (told none = [] ∧ (request.all = false → base.override request none = base)) ∧
    ∀ raw, readPercent? raw =
      (Numeral.readWithin? Numeral.byteLimit (Numeral.unsigned (Text.trim raw))).filter
        fun n => 1 ≤ n && n ≤ 100 := by
  intro told
  refine ⟨override_all, ?_, ?_, ⟨rfl, override_none⟩, ?_⟩
  · intro raw percent share
    refine ⟨?_, fun part => override_share part share⟩
    rw [← lines_of_share share, ← log_tellEach host state]
  · intro raw refused
    refine ⟨?_, fun part => override_no_share part refused⟩
    rw [← lines_of_no_share refused, ← log_tellEach host state]
  · intro raw
    rw [readPercent?, Numeral.below?_eq_readWithin? (by decide)]

/-- A numeral with zeros, a sign and blanks around it is a share. One that eight bits would take for
a share is none, and is told of although the whole disk is asked for. -/
theorem wrapping_numeral_is_no_share :
    let base := Settings.standard "/sbin".toList
    let request := CommandLine.Request.empty
    let padded := "\u2003+00042\r\n".toList
    let long := "261".toList
    let whole := request.turnOn .all
    IsShare padded 42 ∧ base.override request (some padded) = { base with systemPercent := 42 } ∧
      (¬ ∃ percent, IsShare long percent) ∧ base.override request (some long) = base ∧
      base.override whole (some long) = { base with systemPercent := 100 } ∧
      ((tellEach (overrideNotices (some long))).run scripted .empty).log =
        [⟨.warning, ("Ignoring RECDISK_SYSTEM_RATIO=\"261\"" ++
          ": expected an integer between 1 and 100").toList⟩] := by
  intro base request padded long whole
  have share : IsShare padded 42 := by decide
  have refused : ¬ ∃ percent, IsShare long percent := by decide
  obtain ⟨-, shares, others, -⟩ := override_accepts_only_shares base request scripted .empty
  obtain ⟨all, -⟩ := override_accepts_only_shares base whole scripted .empty
  obtain ⟨told, kept⟩ := others long refused
  exact ⟨share, (shares padded 42 share).2 rfl, refused, kept rfl, all rfl (some long),
    told.trans (by decide +kernel)⟩

end DiskPrep.Settings
