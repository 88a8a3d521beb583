import DiskPrep.Proofs.Text.Numeral
import DiskPrep.Proofs.Text.Words
import DiskPrep.Report.Partitions
import Mathlib.Data.List.Forall2

/-!
What the rows of a report keep of its lines. A report has rows exactly when each of its lines
that is not blank is one, and they are the rows of these lines, in order
(`parseReport_eq_ok_iff`). So where there are rows every line has given its name to one
(`exists_row_of_line`).
-/
namespace DiskPrep.DeviceRow

/-- The text is a numeral in the range of the field. -/
def Field.Reads (field : Field) (raw : Text) (n : Nat) : Prop :=
  Numeral.Writes raw n ∧ n < field.limit

/-- The words are those of the row: its three numbers, then its name. -/
def OfWords (words : List Text) (row : DeviceRow) : Prop :=
  ∃ major minor blocks, words = [major, minor, blocks, row.name] ∧
    Field.major.Reads major row.major ∧ Field.minor.Reads minor row.minor ∧
      Field.blocks.Reads blocks row.blocks

/-- The line is the row: it has the words of the row and no others. -/
def OnLine (line : Text) (row : DeviceRow) : Prop := OfWords (Text.words line) row

/-- The lines of a report that must be rows: those behind the heading that are not blank. -/
def rowLines (report : Text) : List Text :=
  ((Text.lines report).drop headingLines).filter fun line => !line.all Text.isBlank

/-- The report is of use: each of these lines is a row. -/
def Fits (report : Text) : Prop := ∀ line ∈ rowLines report, ∃ row, OnLine line row

theorem readField_eq_ok_iff {number : Nat} {field : Field} {raw : Text} {n : Nat} :
    readField number field raw = .ok n ↔ field.Reads raw n := by
  rw [Field.Reads, ← Numeral.below?_eq_some_iff, readField]
  cases Numeral.below? field.limit raw <;> simp

theorem ofWords_eq_ok_iff {number : Nat} {words : List Text} {row : DeviceRow} :
    ofWords number words = .ok row ↔ OfWords words row := by
  unfold OfWords
  constructor
  · intro read
    unfold ofWords at read
    split at read
    next major minor blocks name =>
      simp only [Bind.bind, Except.bind] at read
      split at read
      · cases read
      next readMajor =>
        split at read
        · cases read
        next readMinor =>
          split at read
          · cases read
          next readBlocks =>
            cases read
            exact ⟨major, minor, blocks, rfl, readField_eq_ok_iff.mp readMajor,
              readField_eq_ok_iff.mp readMinor, readField_eq_ok_iff.mp readBlocks⟩
    next => cases read
  · rintro ⟨major, minor, blocks, rfl, readMajor, readMinor, readBlocks⟩
    simp only [ofWords, readField_eq_ok_iff.mpr readMajor, readField_eq_ok_iff.mpr readMinor,
      readField_eq_ok_iff.mpr readBlocks]
    rfl

/-- A blank line is passed over. -/
theorem ofLines_cons_blank {number : Nat} {line : Text} {rest : List Text}
    (blank : Text.words line = []) :
    ofLines number (line :: rest) = ofLines (number + 1) rest := by
  rw [ofLines]
  split
  · rfl
  next found => exact absurd blank found

/-- Any other line is read as a row, and so are those behind it. -/
theorem ofLines_cons_eq_ok_iff {number : Nat} {line : Text} {rest : List Text}
    {rows : List DeviceRow} (found : Text.words line ≠ []) :
    ofLines number (line :: rest) = .ok rows ↔
      ∃ row others, OnLine line row ∧ ofLines (number + 1) rest = .ok others ∧
        rows = row :: others := by
  rw [ofLines]
  split
  next blank => exact absurd blank found
  next =>
    simp only [Bind.bind, Except.bind]
    constructor
    · intro read
      split at read
      · cases read
      next row this =>
        split at read
        · cases read
        next others those =>
          cases read
          exact ⟨row, others, ofWords_eq_ok_iff.mp this, those, rfl⟩
    · rintro ⟨row, others, this, those, rfl⟩
      rw [ofWords_eq_ok_iff.mpr this, those]
      rfl

theorem ofLines_eq_ok_iff {number : Nat} {lines : List Text} {rows : List DeviceRow} :
    ofLines number lines = .ok rows ↔
      List.Forall₂ OnLine (lines.filter fun line => !line.all Text.isBlank) rows := by
  induction lines generalizing number rows with
  | nil => simp [ofLines, eq_comm]
  | cons line rest ih =>
    have blank_iff : Text.words line = [] ↔ line.all Text.isBlank = true :=
      Text.words_eq_nil_iff.trans List.all_eq_true.symm
    by_cases blank : line.all Text.isBlank = true
    · rw [ofLines_cons_blank (blank_iff.mpr blank), ih, List.filter_cons_of_neg (by simp [blank])]
    · rw [ofLines_cons_eq_ok_iff (mt blank_iff.mp blank),
        List.filter_cons_of_pos (by simpa using blank), List.forall₂_cons_left_iff]
      simp only [ih]

/-- The rows of a report are those of its lines. -/
theorem parseReport_eq_ok_iff {report : Text} {rows : List DeviceRow} :
    parseReport report = .ok rows ↔ List.Forall₂ OnLine (rowLines report) rows :=
  ofLines_eq_ok_iff

/-- Rows can be found for lines when one can be found for each. -/
theorem exists_rows_iff {lines : List Text} :
    (∃ rows, List.Forall₂ OnLine lines rows) ↔ ∀ line ∈ lines, ∃ row, OnLine line row := by
  induction lines with
  | nil => simp
  | cons line rest ih =>
    simp only [List.forall₂_cons_left_iff, List.forall_mem_cons, ← ih]
    constructor
    · rintro ⟨-, row, others, this, those, rfl⟩
      exact ⟨⟨row, this⟩, others, those⟩
    · rintro ⟨⟨row, this⟩, others, those⟩
      exact ⟨row :: others, row, others, this, those, rfl⟩

/-- A report has rows exactly when it is of use. -/
theorem exists_parseReport_ok_iff {report : Text} :
    (∃ rows, parseReport report = .ok rows) ↔ Fits report := by
  simp only [parseReport_eq_ok_iff]
  exact exists_rows_iff

instance (report : Text) : Decidable (Fits report) :=
  match parsed : parseReport report with
  | .ok rows => isTrue (exists_parseReport_ok_iff.mp ⟨rows, parsed⟩)
  | .error _ => isFalse fun fits => by
      obtain ⟨rows, read⟩ := exists_parseReport_ok_iff.mpr fits
      rw [parsed] at read
      cases read

/-- Every line has its row. -/
theorem exists_row_of_mem {lines : List Text} {rows : List DeviceRow} {line : Text}
    (fits : List.Forall₂ OnLine lines rows) (member : line ∈ lines) :
    ∃ row ∈ rows, OnLine line row := by
  induction fits with
  | nil => exact absurd member List.not_mem_nil
  | cons here those ih =>
    rcases List.mem_cons.mp member with rfl | member
    · exact ⟨_, List.mem_cons_self, here⟩
    · obtain ⟨row, listed, this⟩ := ih member
      exact ⟨row, List.mem_cons_of_mem _ listed, this⟩

/-- The place of the name among the words of a line. -/
def namePlace : Nat := 3

/-- No line of a report is passed over: its name is the name of a row. -/
theorem exists_row_of_line {number : Nat} {lines : List Text} {rows : List DeviceRow} {line : Text}
    {name : Text} (read : ofLines number lines = .ok rows) (member : line ∈ lines)
    (named : (Text.words line)[namePlace]? = some name) : ∃ row ∈ rows, row.name = name := by
  have kept : line ∈ lines.filter fun line => !line.all Text.isBlank := by
    refine List.mem_filter.mpr ⟨member, ?_⟩
    rw [Bool.not_eq_true', Bool.eq_false_iff]
    intro blank
    rw [Text.words_eq_nil_iff.mpr (List.all_eq_true.mp blank)] at named
    cases named
  obtain ⟨row, listed, major, minor, blocks, words, -⟩ :=
    exists_row_of_mem (ofLines_eq_ok_iff.mp read) kept
  rw [words] at named
  exact ⟨row, listed, Option.some.inj named⟩

end DiskPrep.DeviceRow
