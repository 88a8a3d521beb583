import DiskPrep.Proofs.Report.DeviceReport
import DiskPrep.Proofs.Text.Lines
import DiskPrep.Session.Discovery

/-!
The grammar of the report of block devices. A line that is not blank and behind the heading must
be made of three numerals and a name, with blanks around them. A report of such lines is read as
its rows, one for each, and what is written in this way is read back (`parseReport_written`); any
other report is refused, and the fault tells of its first line that is no row
(`stopsAt_of_parseReport_error`).
-/
namespace DiskPrep.DeviceRow

/-- The line is made of the numbers of the row and its name, with any blanks around them. -/
def RowLine (line : Text) (row : DeviceRow) : Prop :=
  ∃ major minor blocks, Text.Spaced [major, minor, blocks, row.name] line ∧
    Field.major.Reads major row.major ∧ Field.minor.Reads minor row.minor ∧
      Field.blocks.Reads blocks row.blocks

theorem onLine_iff {line : Text} {row : DeviceRow} : OnLine line row ↔ RowLine line row := by
  simp only [OnLine, OfWords, RowLine, Text.words_eq_iff]

/-- The line may stand behind the heading of a report. -/
def Admitted (line : Text) : Prop := Text.AllBlank line ∨ ∃ row, RowLine line row

/-- The first line behind the heading that may not stand there, and its number from one. -/
def StopsAt (report : Text) (number : Nat) (line : Text) : Prop :=
  ∃ heading before after, Text.lines report = heading ++ before ++ line :: after ∧
    heading.length = headingLines ∧ (∀ other ∈ before, Admitted other) ∧ ¬ Admitted line ∧
      number = (heading ++ before).length + 1

/-- Where a field that holds a number stands among the words of its line. -/
def Field.place : Field → Nat
  | major => 0
  | minor => 1
  | blocks => 2

/-- The fault tells what is wrong with the words of a line: how many they are where they are not
four, and otherwise the first of the three that is no numeral in the range of its field. -/
def Fault.Blames (number : Nat) (words : List Text) : Fault → Prop
  | fieldCount line found => line = number ∧ found = words.length ∧ found ≠ 4
  | notNumeral line field raw =>
    line = number ∧ words.length = 4 ∧ words[field.place]? = some raw ∧ (∀ n, ¬ field.Reads raw n) ∧
      ∀ earlier : Field, earlier.place < field.place →
        ∃ text n, words[earlier.place]? = some text ∧ earlier.Reads text n

theorem Fault.Blames.line_eq {number : Nat} {words : List Text} {fault : Fault}
    (blames : fault.Blames number words) : fault.line = number := by
  cases fault <;> exact blames.1

/-- A bind fails in its first part or, with the value of that, in its second. -/
theorem error_of_bind {ε α β : Type} {first : Except ε α} {next : α → Except ε β} {cause : ε}
    (failed : first >>= next = .error cause) :
    first = .error cause ∨ ∃ value, first = .ok value ∧ next value = .error cause := by
  cases first with
  | error other =>
    cases failed
    exact Or.inl rfl
  | ok value => exact Or.inr ⟨value, rfl, failed⟩

/-- What begins with a field fails over this field, or behind it with its value. -/
theorem error_of_readField {β : Type} {number : Nat} {field : Field} {raw : Text} {fault : Fault}
    {next : Nat → Except Fault β} (failed : readField number field raw >>= next = .error fault) :
    (fault = .notNumeral number field raw ∧ ∀ n, ¬ field.Reads raw n) ∨
      ∃ n, field.Reads raw n ∧ next n = .error fault := by
  rcases error_of_bind failed with stopped | ⟨n, read, later⟩
  · have refused : ∀ n, ¬ field.Reads raw n := by
      intro n reads
      rw [readField_eq_ok_iff.mpr reads] at stopped
      cases stopped
    refine Or.inl ⟨?_, refused⟩
    unfold readField at stopped
    split at stopped
    · cases stopped
    · exact (Except.error.inj stopped).symm
  · exact Or.inr ⟨n, readField_eq_ok_iff.mp read, later⟩

theorem ofWords_error {number : Nat} {words : List Text} {fault : Fault}
    (failed : ofWords number words = .error fault) : fault.Blames number words := by
  unfold ofWords at failed
  split at failed
  next major minor blocks name =>
    rcases error_of_readField failed with ⟨rfl, refused⟩ | ⟨majorValue, majorReads, failed⟩
    · exact ⟨rfl, rfl, rfl, refused, fun earlier before => absurd before (Nat.not_lt_zero _)⟩
    rcases error_of_readField failed with ⟨rfl, refused⟩ | ⟨minorValue, minorReads, failed⟩
    · refine ⟨rfl, rfl, rfl, refused, ?_⟩
      rintro (_ | _ | _) before
      · exact ⟨major, majorValue, rfl, majorReads⟩
      all_goals exact absurd before (by decide)
    rcases error_of_readField failed with ⟨rfl, refused⟩ | ⟨blocksValue, -, done⟩
    · refine ⟨rfl, rfl, rfl, refused, ?_⟩
      rintro (_ | _ | _) before
      · exact ⟨major, majorValue, rfl, majorReads⟩
      · exact ⟨minor, minorValue, rfl, minorReads⟩
      · exact absurd before (by decide)
    cases done
  next other =>
    cases failed
    refine ⟨rfl, rfl, ?_⟩
    intro four
    obtain ⟨major, minor, blocks, name, rfl⟩ := List.length_eq_four.mp four
    exact other major minor blocks name rfl

theorem not_admitted_of_ofWords_error {number : Nat} {line : Text} {fault : Fault}
    (filled : Text.words line ≠ []) (failed : ofWords number (Text.words line) = .error fault) :
    ¬ Admitted line := by
  rintro (blank | ⟨row, made⟩)
  · exact filled (Text.words_eq_nil_iff.mpr blank)
  · rw [ofWords_eq_ok_iff.mpr (onLine_iff.mpr made)] at failed
    cases failed

/-- The reader stops at the first line that may not stand there, and at no line before it. -/
theorem ofLines_error {number : Nat} {lines : List Text} {fault : Fault}
    (failed : ofLines number lines = .error fault) :
    ∃ before line after, lines = before ++ line :: after ∧ (∀ other ∈ before, Admitted other) ∧
      ¬ Admitted line ∧ fault.Blames (number + before.length) (Text.words line) := by
  induction lines generalizing number with
  | nil => cases failed
  | cons line rest ih =>
    -- Where the line itself may stand, the reader stops behind it.
    have behind (admitted : Admitted line) (later : ofLines (number + 1) rest = .error fault) :
        ∃ before last after, line :: rest = before ++ last :: after ∧
          (∀ other ∈ before, Admitted other) ∧ ¬ Admitted last ∧
            fault.Blames (number + before.length) (Text.words last) := by
      obtain ⟨before, last, after, rfl, all, broken, blames⟩ := ih later
      refine ⟨line :: before, last, after, rfl, List.forall_mem_cons.mpr ⟨admitted, all⟩, broken, ?_⟩
      rwa [List.length_cons, Nat.add_comm before.length, ← Nat.add_assoc]
    by_cases blank : Text.words line = []
    · rw [ofLines_cons_blank blank] at failed
      exact behind (Or.inl (Text.words_eq_nil_iff.mp blank)) failed
    · rw [ofLines] at failed
      split at failed
      next nothing => exact absurd nothing blank
      next =>
        rcases error_of_bind failed with stopped | ⟨row, this, failed⟩
        · exact ⟨[], line, rest, rfl, List.forall_mem_nil _,
            not_admitted_of_ofWords_error blank stopped, ofWords_error stopped⟩
        rcases error_of_bind failed with later | ⟨others, -, done⟩
        · exact behind (Or.inr ⟨row, onLine_iff.mp (ofWords_eq_ok_iff.mp this)⟩) later
        · cases done

/-- A report that is refused has a first line that may not stand there, and the fault tells of it. -/
theorem stopsAt_of_parseReport_error {report : Text} {fault : Fault}
    (failed : parseReport report = .error fault) :
    ∃ number line, StopsAt report number line ∧ fault.Blames number (Text.words line) := by
  obtain ⟨before, line, after, split, admitted, broken, blames⟩ := ofLines_error failed
  have heading : ((Text.lines report).take headingLines).length = headingLines := by
    refine List.length_take_of_le ?_
    have := congrArg List.length split
    rw [List.length_drop, List.length_append, List.length_cons] at this
    omega
  refine ⟨_, line, ⟨_, before, after, ?_, heading, admitted, broken, rfl⟩, ?_⟩
  · rw [List.append_assoc, ← split, List.take_append_drop]
  · rw [List.length_append, heading]
    rwa [Nat.add_right_comm] at blames

/-- The rows as lines of a report: the numbers in decimal and the name, with any blanks around
them, and any blank lines between. -/
inductive Body : List Text → List DeviceRow → Prop where
  | nil : Body [] []
  | blank {line : Text} {lines : List Text} {rows : List DeviceRow} (blank : Text.AllBlank line)
      (whole : '\n' ∉ line) (rest : Body lines rows) : Body (line :: lines) rows
  | row {line : Text} {lines : List Text} {row : DeviceRow} {rows : List DeviceRow}
      (made : Text.Spaced
        [decimal row.major, decimal row.minor, decimal row.blocks, row.name] line)
      (whole : '\n' ∉ line) (rest : Body lines rows) : Body (line :: lines) (row :: rows)

def InRange (row : DeviceRow) : Prop :=
  row.major < Field.major.limit ∧ row.minor < Field.minor.limit ∧ row.blocks < Field.blocks.limit

instance (row : DeviceRow) : Decidable row.InRange := inferInstanceAs (Decidable (_ ∧ _))

variable {lines body : List Text} {rows : List DeviceRow}

theorem Body.whole (written : Body lines rows) : ∀ line ∈ lines, '\n' ∉ line := by
  induction written with
  | nil => exact List.forall_mem_nil _
  | blank blank whole rest ih => exact List.forall_mem_cons.mpr ⟨whole, ih⟩
  | row made whole rest ih => exact List.forall_mem_cons.mpr ⟨whole, ih⟩

/-- What has the words of written lines reads as the rows that were written. -/
theorem Body.forall₂_onLine (written : Body body rows) (sizes : ∀ row ∈ rows, row.InRange)
    (same : List.Forall₂ (fun line written => Text.words line = Text.words written) lines body) :
    List.Forall₂ OnLine (lines.filter fun line => !line.all Text.isBlank) rows := by
  induction written generalizing lines with
  | nil =>
    rw [List.forall₂_nil_right_iff.mp same]
    exact .nil
  | blank blank whole rest ih =>
    obtain ⟨line, others, here, behind, rfl⟩ := List.forall₂_cons_right_iff.mp same
    have unseen : line.all Text.isBlank = true := by
      rw [List.all_eq_true]
      exact Text.words_eq_nil_iff.mp (here.trans (Text.words_eq_nil_iff.mpr blank))
    rw [List.filter_cons_of_neg (by simp [unseen])]
    exact ih sizes behind
  | @row written bodyRest row rowsRest made whole rest ih =>
    obtain ⟨line, others, here, behind, rfl⟩ := List.forall₂_cons_right_iff.mp same
    obtain ⟨⟨major, minor, blocks⟩, later⟩ := List.forall_mem_cons.mp sizes
    have words := here.trans (Text.words_of_spaced made)
    have seen : line.all Text.isBlank = false := by
      rw [← Bool.not_eq_true, List.all_eq_true]
      intro blank
      rw [Text.words_eq_nil_iff.mpr blank] at words
      cases words
    rw [List.filter_cons_of_pos (by simp [seen])]
    refine .cons ⟨_, _, _, words, ?_, ?_, ?_⟩ (ih later behind)
    · exact ⟨Numeral.writes_decimal _, major⟩
    · exact ⟨Numeral.writes_decimal _, minor⟩
    · exact ⟨Numeral.writes_decimal _, blocks⟩

/-- The lines of a text have the words of the pieces between its line feeds; only an empty piece
at the end is no line. -/
theorem forall₂_lines_splitOn (t : Text) :
    ∃ last : List Text, (∀ piece ∈ last, piece = []) ∧
      List.Forall₂ (fun line piece => Text.words line = Text.words piece)
        (Text.lines t ++ last) (t.splitOn '\n') := by
  obtain ⟨init, final, pieces⟩ : ∃ init final, t.splitOn '\n' = init ++ [final] :=
    ⟨_, _, (List.dropLast_concat_getLast (List.splitOn_ne_nil '\n' t)).symm⟩
  have ended : List.Forall₂ (fun line piece => Text.words line = Text.words piece)
      (init.map Text.withoutReturn) init := by
    rw [List.forall₂_map_left_iff, List.forall₂_same]
    exact fun piece _ => Text.words_withoutReturn piece
  refine ⟨if final.isEmpty then [[]] else [], ?_, ?_⟩
  · intro piece member
    split at member
    · exact List.mem_singleton.mp member
    · exact absurd member List.not_mem_nil
  · simp only [Text.lines, pieces, List.dropLast_concat, List.getLastD_concat, List.append_assoc]
    refine List.rel_append ended ?_
    cases final with
    | nil => exact .cons rfl .nil
    | cons c rest => exact .cons rfl .nil

/-- What is written behind any two lines is read back. -/
theorem parseReport_written {first second : Text} (firstWhole : '\n' ∉ first)
    (secondWhole : '\n' ∉ second) (written : Body body rows)
    (sizes : ∀ row ∈ rows, row.InRange) :
    parseReport (Text.joined ['\n'] (first :: second :: body)) = .ok rows := by
  have pieces : (Text.joined ['\n'] (first :: second :: body)).splitOn '\n' =
      first :: second :: body := by
    refine Text.splitOn_eq_iff.mpr ⟨List.cons_ne_nil _ _, ?_, rfl⟩
    exact List.forall_mem_cons.mpr ⟨firstWhole, List.forall_mem_cons.mpr ⟨secondWhole, written.whole⟩⟩
  obtain ⟨last, empty, same⟩ := forall₂_lines_splitOn (Text.joined ['\n'] (first :: second :: body))
  rw [pieces] at same
  have unseen : (last.drop (headingLines - (Text.lines
      (Text.joined ['\n'] (first :: second :: body))).length)).filter
        (fun line => !line.all Text.isBlank) = [] := by
    rw [List.filter_eq_nil_iff]
    intro piece member
    simp [empty piece (List.mem_of_mem_drop member)]
  have onLines := written.forall₂_onLine sizes (List.forall₂_drop headingLines same)
  rw [List.drop_append, List.filter_append, unseen, List.append_nil] at onLines
  exact parseReport_eq_ok_iff.mpr onLines

/-- The reader of the report accepts its grammar, and nothing else, and loses nothing. A report is
read exactly when every line behind the heading that is not blank is a row, and then as these rows,
in order. The failure for any other names the number of its first line that is no row. Rows that are
written one on each line behind any two lines, with any blanks around their words and any blank lines
between, are read back. -/
theorem reads_exactly_grammar :
    (∀ report, (∃ rows, parseReport report = .ok rows) ↔
      ∀ line ∈ rowLines report, ∃ row, RowLine line row) ∧
    (∀ report rows, parseReport report = .ok rows ↔
      List.Forall₂ RowLine (rowLines report) rows) ∧
    (∀ report, (¬ ∀ line ∈ rowLines report, ∃ row, RowLine line row) →
      ∃ fault number line, parseReport report = .error fault ∧ StopsAt report number line ∧
        fault.Blames number (Text.words line) ∧
        Discovery.rowsOf (.ok report) = .error (.malformed fault.message) ∧
        "/proc/partitions line ".toList ++ decimal number ++ ": ".toList <+: fault.message) ∧
    ∀ first second body rows, '\n' ∉ first → '\n' ∉ second → Body body rows →
      (∀ row ∈ rows, row.InRange) →
      parseReport (Text.joined ['\n'] (first :: second :: body)) = .ok rows := by
  have same : OnLine = RowLine := funext fun _ => funext fun _ => propext onLine_iff
  have readable (report : Text) : (∃ rows, parseReport report = .ok rows) ↔
      ∀ line ∈ rowLines report, ∃ row, RowLine line row := by
    rw [← same]
    exact exists_parseReport_ok_iff
  refine ⟨readable, ?_, ?_, ?_⟩
  · intro report rows
    rw [← same]
    exact parseReport_eq_ok_iff
  · intro report misfit
    rw [← readable] at misfit
    cases parsed : parseReport report with
    | ok rows => exact absurd ⟨rows, parsed⟩ misfit
    | error fault =>
      obtain ⟨number, line, stops, blames⟩ := stopsAt_of_parseReport_error parsed
      obtain rfl := blames.line_eq
      refine ⟨fault, fault.line, line, rfl, stops, blames, ?_, fault.reason, rfl⟩
      simp only [Discovery.rowsOf, Bind.bind, Except.bind, parsed]
  · intro first second body rows firstWhole secondWhole written sizes
    exact parseReport_written firstWhole secondWhole written sizes

/-- Rows between blank lines, with tabs and a carriage return around their words, are read
back from behind any two lines. A size that leaves its field stops the reader at the fourth line. -/
theorem reads_padded_rows :
    parseReport (Text.joined ['\n'] ["sda 8".toList, [], "\t8 0\t1024  sda \r".toList,
      " \t".toList, "259 3 7 nvme0n1p3".toList]) =
      .ok [⟨8, 0, 1024, "sda".toList⟩, ⟨259, 3, 7, "nvme0n1p3".toList⟩] ∧
    ∃ fault number line,
      parseReport "heading\n\n\n8 0 18446744073709551616 sda\n8 x\n".toList = .error fault ∧
        StopsAt "heading\n\n\n8 0 18446744073709551616 sda\n8 x\n".toList number line ∧
          fault.Blames number (Text.words line) := by
  refine ⟨?_, ?_⟩
  · have written : Body ["\t8 0\t1024  sda \r".toList, " \t".toList, "259 3 7 nvme0n1p3".toList]
        [⟨8, 0, 1024, "sda".toList⟩, ⟨259, 3, 7, "nvme0n1p3".toList⟩] :=
      .row (Text.words_eq_iff.mp (by decide)) (by decide)
        (.blank (by decide) (by decide) (.row (Text.words_eq_iff.mp (by decide)) (by decide) .nil))
    exact reads_exactly_grammar.2.2.2 _ _ _ _ (by decide) (by decide) written (by decide)
  · have misfit : ¬ ∀ line ∈ rowLines
        "heading\n\n\n8 0 18446744073709551616 sda\n8 x\n".toList, ∃ row, RowLine line row := by
      rw [← reads_exactly_grammar.1]
      have refused : parseReport "heading\n\n\n8 0 18446744073709551616 sda\n8 x\n".toList =
          .error (.notNumeral 4 .blocks "18446744073709551616".toList) := by decide
      rintro ⟨rows, accepted⟩
      rw [refused] at accepted
      cases accepted
    obtain ⟨fault, number, line, failed, stops, blames, -⟩ :=
      reads_exactly_grammar.2.2.1 _ misfit
    exact ⟨fault, number, line, failed, stops, blames⟩

end DiskPrep.DeviceRow
