import DiskPrep.Proofs.Text.Numeral
import DiskPrep.Proofs.Text.Trim
import DiskPrep.Report.Summary

/-!
What the tool's output says of a disk. The first line with five colons decides
(`ofLine?_of_first`): its second field must be a size with its unit and its sixth is the label, and
no other line is read. Lines without a summary may stand before it and anything behind it, so a
summary row that is written among partition rows is read back (`parseSummary_written`). Blanks at
the ends of an output are not read (`parseSummary_trim`).
-/
namespace DiskPrep.Geometry

/-- The line is a summary: it has the colons between six fields, or more. -/
def IsSummary (line : Text) : Prop := 5 ≤ line.count ':'

instance (line : Text) : Decidable (IsSummary line) := inferInstanceAs (Decidable (_ ≤ _))

/-- The first summary among the lines of the output. -/
def FirstSummary (output row : Text) : Prop :=
  ∃ before after, Text.lines output = before ++ row :: after ∧
    (∀ line ∈ before, ¬ IsSummary line) ∧ IsSummary row

/-- The field is a number below the limit with the unit behind it. -/
def WritesSize (field : Text) (total : Nat) : Prop :=
  ∃ size, field = size ++ sizeUnit ∧ Numeral.Writes size total ∧ total < Numeral.longLimit

/-- The fields of the trimmed line give the geometry: the second its size, the sixth its label. -/
def Gives (row : Text) (geometry : Geometry) : Prop :=
  ∃ fields size, Text.CutAt ':' (Text.trim row) fields ∧ fields[1]? = some size ∧
    WritesSize size geometry.total ∧ fields[5]? = some geometry.label

/-- The second field of the trimmed line is no size. -/
def SpoilsSize (row size : Text) : Prop :=
  ∃ fields, Text.CutAt ':' (Text.trim row) fields ∧ fields[1]? = some size ∧
    ∀ total, ¬ WritesSize size total

theorem dropSuffix?_eq_some_iff {final t rest : Text} :
    Text.dropSuffix? final t = some rest ↔ t = rest ++ final := by
  unfold Text.dropSuffix?
  constructor
  · intro dropped
    split at dropped
    next ends =>
      obtain ⟨start, rfl⟩ := List.isSuffixOf_iff_suffix.mp ends
      cases dropped
      simp
    next => cases dropped
  · rintro rfl
    simp

theorem readSize?_eq_some_iff {field : Text} {total : Nat} :
    readSize? field = some total ↔ WritesSize field total := by
  simp only [readSize?, Option.bind_eq_some_iff, dropSuffix?_eq_some_iff,
    Numeral.below?_eq_some_iff, WritesSize]

/-- What a line says of the disk. -/
def ofLine? (line : Text) : Option (Except Fault Geometry) := ofFields? (fieldsOf line)

theorem exists_six_fields {fields : List Text} (long : 6 ≤ fields.length) :
    ∃ path size transport logical physical label rest,
      fields = path :: size :: transport :: logical :: physical :: label :: rest := by
  match fields, long with
  | path :: size :: transport :: logical :: physical :: label :: rest, _ =>
    exact ⟨path, size, transport, logical, physical, label, rest, rfl⟩

theorem ofFields?_eq_none_iff {fields : List Text} : ofFields? fields = none ↔ fields.length < 6 := by
  by_cases long : 6 ≤ fields.length
  · obtain ⟨path, size, transport, logical, physical, label, rest, rfl⟩ := exists_six_fields long
    simp [ofFields?]
  · refine iff_of_true ?_ (Nat.lt_of_not_le long)
    unfold ofFields?
    split
    · simp at long
    · rfl

theorem ofFields?_eq_ok_iff {fields : List Text} {geometry : Geometry} :
    ofFields? fields = some (.ok geometry) ↔
      ∃ size, fields[1]? = some size ∧ WritesSize size geometry.total ∧
        fields[5]? = some geometry.label := by
  by_cases long : 6 ≤ fields.length
  · obtain ⟨path, size, transport, logical, physical, label, rest, rfl⟩ := exists_six_fields long
    obtain ⟨total, name⟩ := geometry
    simp only [ofFields?, List.getElem?_cons_succ, List.getElem?_cons_zero, Option.some.injEq,
      exists_eq_left', ← readSize?_eq_some_iff]
    cases readSize? size <;> simp
  · rw [ofFields?_eq_none_iff.mpr (Nat.lt_of_not_le long)]
    refine iff_of_false (Option.some_ne_none _).symm ?_
    rintro ⟨size, -, -, label⟩
    exact long (List.getElem?_eq_some_iff.mp label).1

theorem ofFields?_eq_error_iff {fields : List Text} {fault : Fault} :
    ofFields? fields = some (.error fault) ↔ 6 ≤ fields.length ∧
      ∃ size, fields[1]? = some size ∧ (∀ total, ¬ WritesSize size total) ∧ fault = .badSize size := by
  by_cases long : 6 ≤ fields.length
  · rw [and_iff_right long]
    obtain ⟨path, size, transport, logical, physical, label, rest, rfl⟩ := exists_six_fields long
    simp only [ofFields?, List.getElem?_cons_succ, List.getElem?_cons_zero, Option.some.injEq,
      exists_eq_left', ← readSize?_eq_some_iff]
    cases readSize? size <;> simp [eq_comm]
  · rw [ofFields?_eq_none_iff.mpr (Nat.lt_of_not_le long)]
    exact iff_of_false (Option.some_ne_none _).symm fun both => long both.1

theorem length_fieldsOf (line : Text) : (fieldsOf line).length = line.count ':' + 1 := by
  rw [fieldsOf, Text.length_splitOn, Text.count_trim (by decide)]

theorem ofLine?_eq_none_iff {line : Text} : ofLine? line = none ↔ ¬ IsSummary line := by
  rw [ofLine?, ofFields?_eq_none_iff, length_fieldsOf, IsSummary]
  omega

theorem ofLine?_eq_ok_iff {line : Text} {geometry : Geometry} :
    ofLine? line = some (.ok geometry) ↔ Gives line geometry := by
  rw [ofLine?, ofFields?_eq_ok_iff]
  constructor
  · rintro ⟨size, given⟩
    exact ⟨fieldsOf line, size, Text.splitOn_eq_iff.mp rfl, given⟩
  · rintro ⟨fields, size, cut, given⟩
    rw [fieldsOf, Text.splitOn_eq_iff.mpr cut]
    exact ⟨size, given⟩

theorem ofLine?_eq_error_of_spoiled {line size : Text} (summary : IsSummary line)
    (spoiled : SpoilsSize line size) : ofLine? line = some (.error (.badSize size)) := by
  obtain ⟨fields, cut, here, unreadable⟩ := spoiled
  refine ofFields?_eq_error_iff.mpr ⟨?_, size, ?_, unreadable, rfl⟩
  · rw [length_fieldsOf]
    exact Nat.succ_le_succ summary
  · rwa [fieldsOf, Text.splitOn_eq_iff.mpr cut]

theorem spoilsSize_of_ofLine?_eq_error {line : Text} {fault : Fault}
    (failed : ofLine? line = some (.error fault)) :
    ∃ size, fault = .badSize size ∧ SpoilsSize line size := by
  obtain ⟨-, size, here, unreadable, rfl⟩ := ofFields?_eq_error_iff.mp failed
  exact ⟨size, rfl, fieldsOf line, Text.splitOn_eq_iff.mp rfl, here, unreadable⟩

/-- A line is read without the blanks at its ends. -/
theorem ofLine?_trim (line : Text) : ofLine? (Text.trim line) = ofLine? line := by
  rw [ofLine?, ofLine?, fieldsOf, fieldsOf, Text.trim_trim]

theorem ofLine?_withoutReturn (line : Text) : ofLine? (Text.withoutReturn line) = ofLine? line :=
  Text.read_withoutReturn ofLine? ofLine?_trim line

/-- Only the first line that says something counts. -/
theorem parseSummary_eq (output : Text) :
    parseSummary output =
      ((Text.lines output).filterMap ofLine?).head?.getD (.error .noSummary) := by
  rw [List.head?_filterMap]
  rfl

theorem parseSummary_congr {output other : Text}
    (same : (Text.lines output).filterMap ofLine? = (Text.lines other).filterMap ofLine?) :
    parseSummary output = parseSummary other := by
  rw [parseSummary_eq, parseSummary_eq, same]

/-- Blanks at the ends of an output are not read, even where they end lines. -/
theorem parseSummary_trim (output : Text) :
    parseSummary (Text.trim output) = parseSummary output :=
  parseSummary_congr (Text.filterMap_lines_trim ofLine? ofLine?_trim rfl output)

theorem exists_first {output line : Text} (member : line ∈ Text.lines output)
    (summary : IsSummary line) : ∃ row, FirstSummary output row := by
  have heard : (Text.lines output).findSome? ofLine? ≠ none := fun absent =>
    ofLine?_eq_none_iff.mp (List.findSome?_eq_none_iff.mp absent line member) summary
  obtain ⟨result, found⟩ := Option.ne_none_iff_exists'.mp heard
  obtain ⟨before, row, after, split, said, silent⟩ := List.findSome?_eq_some_iff.mp found
  refine ⟨row, before, after, split, fun other inside => ofLine?_eq_none_iff.mp (silent other inside), ?_⟩
  by_contra plain
  rw [ofLine?_eq_none_iff.mpr plain] at said
  cases said

/-- The first summary alone decides what the output says. -/
theorem ofLine?_of_first {output row : Text} (first : FirstSummary output row) :
    ofLine? row = some (parseSummary output) := by
  obtain ⟨before, after, split, plain, summary⟩ := first
  obtain ⟨result, said⟩ : ∃ result, ofLine? row = some result :=
    Option.ne_none_iff_exists'.mp fun silent => ofLine?_eq_none_iff.mp silent summary
  have silent : before.filterMap ofLine? = [] :=
    List.filterMap_eq_nil_iff.mpr fun line inside => ofLine?_eq_none_iff.mpr (plain line inside)
  rw [parseSummary_eq, split, List.filterMap_append, silent, List.nil_append,
    List.filterMap_cons_some said, said]
  rfl

theorem parseSummary_eq_noSummary_iff {output : Text} :
    parseSummary output = .error .noSummary ↔ ∀ line ∈ Text.lines output, ¬ IsSummary line := by
  constructor
  · intro failed line member summary
    obtain ⟨row, first⟩ := exists_first member summary
    have said := ofLine?_of_first first
    rw [failed] at said
    obtain ⟨size, wrong, -⟩ := spoilsSize_of_ofLine?_eq_error said
    cases wrong
  · intro plain
    have silent : (Text.lines output).filterMap ofLine? = [] :=
      List.filterMap_eq_nil_iff.mpr fun line inside => ofLine?_eq_none_iff.mpr (plain line inside)
    rw [parseSummary_eq, silent]
    rfl

/-- Where something is said of the disk, or of what is wrong with it, there is a first summary. -/
theorem exists_first_of_parseSummary {output : Text}
    (said : parseSummary output ≠ .error .noSummary) : ∃ row, FirstSummary output row := by
  by_contra absent
  refine said (parseSummary_eq_noSummary_iff.mpr fun line member summary => ?_)
  exact absent (exists_first member summary)

theorem parseSummary_eq_ok_iff {output : Text} {geometry : Geometry} :
    parseSummary output = .ok geometry ↔
      ∃ row, FirstSummary output row ∧ Gives row geometry := by
  constructor
  · intro known
    have said : parseSummary output ≠ .error .noSummary := by simp [known]
    obtain ⟨row, first⟩ := exists_first_of_parseSummary said
    refine ⟨row, first, ofLine?_eq_ok_iff.mp ?_⟩
    rw [ofLine?_of_first first, known]
  · rintro ⟨row, first, given⟩
    exact Option.some.inj ((ofLine?_of_first first).symm.trans (ofLine?_eq_ok_iff.mpr given))

theorem parseSummary_eq_badSize_iff {output size : Text} :
    parseSummary output = .error (.badSize size) ↔
      ∃ row, FirstSummary output row ∧ SpoilsSize row size := by
  constructor
  · intro failed
    have named : parseSummary output ≠ .error .noSummary := by simp [failed]
    obtain ⟨row, first⟩ := exists_first_of_parseSummary named
    have said := ofLine?_of_first first
    rw [failed] at said
    obtain ⟨other, same, spoiled⟩ := spoilsSize_of_ofLine?_eq_error said
    cases same
    exact ⟨row, first, spoiled⟩
  · rintro ⟨row, first, spoiled⟩
    have summary : IsSummary row := first.choose_spec.choose_spec.2.2
    exact Option.some.inj
      ((ofLine?_of_first first).symm.trans (ofLine?_eq_error_of_spoiled summary spoiled))

/-- Lines that are no summary may stand before any text. -/
theorem parseSummary_behind {before : List Text} (text : Text)
    (plain : ∀ line ∈ before, '\n' ∉ line ∧ ¬ IsSummary line) :
    parseSummary ((before.flatMap fun line => line ++ ['\n']) ++ text) = parseSummary text := by
  refine parseSummary_congr ?_
  induction before with
  | nil => rfl
  | cons line rest ih =>
    obtain ⟨⟨whole, silent⟩, others⟩ := List.forall_mem_cons.mp plain
    rw [List.flatMap_cons, List.append_assoc, List.append_assoc, List.singleton_append,
      Text.filterMap_lines_append ofLine? ofLine?_withoutReturn rfl,
      Text.filterMap_lines_line ofLine? ofLine?_withoutReturn rfl whole,
      ofLine?_eq_none_iff.mpr silent]
    exact ih others

/-- Whatever stands behind a text with a summary is not read. -/
theorem parseSummary_before {text row : Text} (first : FirstSummary text row) (after : Text) :
    parseSummary (text ++ '\n' :: after) = parseSummary text := by
  obtain ⟨result, said⟩ : ∃ result, ((Text.lines text).filterMap ofLine?).head? = some result := by
    refine Option.ne_none_iff_exists'.mp fun silent => ?_
    have nothing : parseSummary text = .error .noSummary := by rw [parseSummary_eq, silent]; rfl
    obtain ⟨before, rest, split, -, summary⟩ := first
    exact parseSummary_eq_noSummary_iff.mp nothing row (by simp [split]) summary
  rw [parseSummary_eq, parseSummary_eq, Text.filterMap_lines_append ofLine? ofLine?_withoutReturn rfl,
    List.head?_append, said]
  rfl

theorem first_of_line {row : Text} (whole : '\n' ∉ row) (summary : IsSummary row) :
    FirstSummary row row := by
  refine ⟨[], [], ?_, List.forall_mem_nil _, summary⟩
  have filled : row ≠ [] := by
    rintro rfl
    exact absurd summary (by decide)
  simp [Text.lines, List.splitOn_eq_singleton whole, filled]

/-- A summary row as the tool writes it. Only the model may hold colons. -/
structure Row where
  path : Text
  total : Nat
  transport : Text
  logical : Text
  physical : Text
  label : Text
  model : Text
  total_lt : total < Numeral.longLimit
  uncut : ∀ field ∈ [path, transport, logical, physical, label], ':' ∉ field
  whole : ∀ field ∈ [path, transport, logical, physical, label, model], '\n' ∉ field

namespace Row

def line (row : Row) : Text :=
  Text.joined [':'] [row.path, decimal row.total ++ sizeUnit, row.transport, row.logical,
    row.physical, row.label, row.model, [';']]

theorem not_mem_size {c : Char} (row : Row) (noDigit : Numeral.isDigit c = false)
    (noUnit : c ∉ sizeUnit) : c ∉ decimal row.total ++ sizeUnit := by
  rw [List.mem_append, not_or]
  refine ⟨fun member => ?_, noUnit⟩
  rw [Numeral.isDigit_of_mem_decimal member] at noDigit
  cases noDigit

theorem whole_line (row : Row) : '\n' ∉ row.line := by
  refine Text.not_mem_joined (by decide) ?_
  have size := row.not_mem_size (c := '\n') (by decide) (by decide)
  have fields := row.whole
  simp only [List.forall_mem_cons] at fields ⊢
  obtain ⟨path, transport, logical, physical, label, model, -⟩ := fields
  exact ⟨path, size, transport, logical, physical, label, model, by decide, List.forall_mem_nil _⟩

def tail (row : Row) : Text :=
  ':' :: Text.joined [':'] [decimal row.total ++ sizeUnit, row.transport, row.logical,
    row.physical, row.label, row.model, []] ++ [';']

theorem line_eq (row : Row) : row.line = row.path ++ row.tail := by
  simp [line, tail, Text.joined, List.intercalate_cons_cons]

def fields (row : Row) : List Text :=
  [row.path.dropWhile Text.isBlank, decimal row.total ++ sizeUnit, row.transport, row.logical,
    row.physical, row.label] ++ (row.model ++ [':', ';']).splitOn ':'

theorem joined_fields (row : Row) :
    Text.joined [':'] row.fields = row.path.dropWhile Text.isBlank ++ row.tail := by
  have model : [':'].intercalate ((row.model ++ [':', ';']).splitOn ':') = row.model ++ [':', ';'] :=
    List.intercalate_splitOn ':'
  obtain ⟨first, rest, pieces⟩ :=
    List.exists_cons_of_ne_nil (List.splitOn_ne_nil ':' (row.model ++ [':', ';']))
  rw [pieces] at model
  simp [fields, tail, pieces, Text.joined, List.intercalate_cons_cons, model]

theorem cutAt_trim_line (row : Row) : Text.CutAt ':' (Text.trim row.line) row.fields := by
  refine ⟨List.cons_ne_nil _ _, ?_, ?_⟩
  · have path : ':' ∉ row.path.dropWhile Text.isBlank := fun member =>
      row.uncut row.path List.mem_cons_self ((List.dropWhile_sublist _).subset member)
    have size := row.not_mem_size (c := ':') (by decide) (by decide)
    have model : ∀ piece ∈ (row.model ++ [':', ';']).splitOn ':', ':' ∉ piece :=
      fun _ member => Text.not_mem_of_mem_splitOn member
    have uncut := row.uncut
    simp only [List.forall_mem_cons] at uncut
    obtain ⟨-, transport, logical, physical, label, -⟩ := uncut
    simp only [fields, List.cons_append, List.nil_append, List.forall_mem_cons]
    exact ⟨path, size, transport, logical, physical, label, model⟩
  · rw [joined_fields, line_eq]
    exact (Text.trim_append_kept _ _ (by decide) (by decide)).symm

theorem gives_line (row : Row) : Gives row.line ⟨row.total, row.label⟩ :=
  ⟨row.fields, _, row.cutAt_trim_line, rfl,
    ⟨decimal row.total, rfl, Numeral.writes_decimal row.total, row.total_lt⟩, rfl⟩

/-- The line of a row is cut into enough fields. -/
theorem isSummary_line (row : Row) : IsSummary row.line := by
  by_contra plain
  have said := ofLine?_eq_ok_iff.mpr row.gives_line
  rw [ofLine?_eq_none_iff.mpr plain] at said
  cases said

end Row

/-- Whatever lines stand behind a summary row are not read. -/
theorem parseSummary_joined_cons {row : Text} (whole : '\n' ∉ row) (summary : IsSummary row)
    (after : List Text) : parseSummary (Text.joined ['\n'] (row :: after)) = parseSummary row := by
  cases after with
  | nil => rw [Text.joined, List.intercalate_singleton]
  | cons next others =>
    rw [Text.joined, List.intercalate_cons_cons, List.append_assoc, List.singleton_append]
    exact parseSummary_before (first_of_line whole summary) _

/-- A summary row is read back from between the tool's first line and any rows of partitions. -/
theorem parseSummary_written (row : Row) (partitions : List Text) :
    parseSummary (Text.joined ['\n'] ("BYT;".toList :: row.line :: partitions)) =
      .ok ⟨row.total, row.label⟩ := by
  have heading : Text.joined ['\n'] ("BYT;".toList :: row.line :: partitions) =
      (["BYT;".toList].flatMap fun line => line ++ ['\n']) ++
        Text.joined ['\n'] (row.line :: partitions) := by
    rw [Text.joined, List.intercalate_cons_cons]
    rfl
  rw [heading, parseSummary_behind _ (by decide),
    parseSummary_joined_cons row.whole_line row.isSummary_line, parseSummary_eq_ok_iff]
  exact ⟨row.line, first_of_line row.whole_line row.isSummary_line, row.gives_line⟩

/-- The first summary row decides, and nothing else of the output is read. Its trimmed line gives
the size by the second field and the label by the sixth; a second field that is no size is a failure,
and so is an output without a summary. Neither lines before it that are no summaries nor anything
behind it change the result, and a row that the tool writes is read back with its size and label. -/
theorem reads_first_summary :
    (∀ output geometry, parseSummary output = .ok geometry ↔
      ∃ row, FirstSummary output row ∧ Gives row geometry) ∧
    (∀ output size, parseSummary output = .error (.badSize size) ↔
      ∃ row, FirstSummary output row ∧ SpoilsSize row size) ∧
    (∀ output, parseSummary output = .error .noSummary ↔
      ∀ line ∈ Text.lines output, ¬ IsSummary line) ∧
    (∀ (before : List Text) text, (∀ line ∈ before, '\n' ∉ line ∧ ¬ IsSummary line) →
      parseSummary ((before.flatMap fun line => line ++ ['\n']) ++ text) = parseSummary text) ∧
    (∀ output other row same, FirstSummary output row → FirstSummary other same →
      Text.trim row = Text.trim same → parseSummary output = parseSummary other) ∧
    (∀ text row after, FirstSummary text row →
      parseSummary (text ++ '\n' :: after) = parseSummary text) ∧
    ∀ (row : Row) (partitions : List Text),
      parseSummary (Text.joined ['\n'] ("BYT;".toList :: row.line :: partitions)) =
        .ok ⟨row.total, row.label⟩ := by
  refine ⟨fun _ _ => parseSummary_eq_ok_iff, fun _ _ => parseSummary_eq_badSize_iff,
    fun _ => parseSummary_eq_noSummary_iff, fun before text plain => parseSummary_behind text plain,
    ?_, fun text row after first => parseSummary_before first after, parseSummary_written⟩
  intro output other row same first otherFirst alike
  refine Option.some.inj ?_
  calc some (parseSummary output) = ofLine? row := (ofLine?_of_first first).symm
    _ = ofLine? same := by rw [← ofLine?_trim row, alike, ofLine?_trim]
    _ = some (parseSummary other) := ofLine?_of_first otherFirst

/-- A warning before the output and a second summary behind it change nothing, and neither does
another end of the summary line. -/
theorem reads_among_other_lines :
    parseSummary ("Warning: in use\nBYT;\n/dev/sda:500GB:scsi:512:512:msdos:A:B:;\r\n".toList ++
      "/dev/sdb:1MB:scsi:512:512:unknown:C:;".toList) = .ok ⟨500, "msdos".toList⟩ := by
  have first : FirstSummary "/dev/sda:500GB:scsi:512:512:msdos:A:B:;\r".toList
      "/dev/sda:500GB:scsi:512:512:msdos:A:B:;\r".toList := first_of_line (by decide) (by decide)
  have bare : FirstSummary "/dev/sda:500GB:scsi:512:512:msdos:A:B:;".toList
      "/dev/sda:500GB:scsi:512:512:msdos:A:B:;".toList := first_of_line (by decide) (by decide)
  obtain ⟨-, -, -, behind, alike, before, -⟩ := reads_first_summary
  calc _ = parseSummary ("/dev/sda:500GB:scsi:512:512:msdos:A:B:;\r".toList ++
        '\n' :: "/dev/sdb:1MB:scsi:512:512:unknown:C:;".toList) :=
        behind ["Warning: in use".toList, "BYT;".toList] _ (by decide)
    _ = parseSummary "/dev/sda:500GB:scsi:512:512:msdos:A:B:;\r".toList := before _ _ _ first
    _ = parseSummary "/dev/sda:500GB:scsi:512:512:msdos:A:B:;".toList :=
        alike _ _ _ _ first bare (by decide)
    _ = .ok ⟨500, "msdos".toList⟩ := by decide

end DiskPrep.Geometry
