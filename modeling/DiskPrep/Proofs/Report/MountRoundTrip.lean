import DiskPrep.Proofs.Report.MountEscapes
import DiskPrep.Proofs.Report.MountTable
import Mathlib.Data.List.Basic

/-!
A table of mounts that is written and read. The writer escapes the space, the tab, the line
feed and the backslash; the reader cuts a line at every blank there is. So a mount point comes
back whole when it holds no blank but those three, and no other does (`parseTable_table_iff`).
-/
namespace DiskPrep

open Text MountEntry

/-- A row of the table: a mount, and the fields behind its mount point. -/
structure MountRow where
  mount : MountEntry
  fields : List Text
  source_isWord : IsWord mount.source
  point_ne_nil : mount.mountPoint.text ≠ []
  fields_whole : ∀ field ∈ fields, '\n' ∉ field

namespace MountRow

def line (row : MountRow) : Text :=
  row.mount.source ++ ' ' :: (escape row.mount.mountPoint.text ++ ' ' :: spaced row.fields)

def table (rows : List MountRow) : Text := rows.flatMap fun row => row.line ++ ['\n']

/-- A blank that the table writes as an escape. -/
def IsEscapedBlank (c : Char) : Prop := c = ' ' ∨ c = '\t' ∨ c = '\n'

instance (c : Char) : Decidable (IsEscapedBlank c) := inferInstanceAs (Decidable (_ ∨ _))

theorem isEscapedBlank_iff {c : Char} :
    IsEscapedBlank c ↔ isBlank c = true ∧ ∃ entry ∈ escapes, entry.2 = c := by
  constructor
  · rintro (rfl | rfl | rfl) <;> decide
  · rintro ⟨blank, entry, known, rfl⟩
    have among : ∀ entry ∈ escapes, isBlank entry.2 = true → IsEscapedBlank entry.2 := by decide
    exact among entry known blank

/-- Whatever the table, no mount point is read that holds a blank without an escape. -/
theorem isEscapedBlank_of_mem_parseTable {table : Text} {entry : MountEntry} {c : Char}
    (member : entry ∈ parseTable table) (inPoint : c ∈ entry.mountPoint.text)
    (blank : isBlank c = true) : IsEscapedBlank c := by
  obtain ⟨line, -, read⟩ := List.mem_filterMap.mp member
  unfold ofLine? at read
  split at read
  next source point rest words =>
    cases read
    have word : IsWord point :=
      isWord_of_mem_words (t := line) (words ▸ List.mem_cons_of_mem _ List.mem_cons_self)
    rw [unescape_eq_decode] at inPoint
    rcases mem_of_mem_decode isEscape_of_mem_escapes point inPoint with written | undone
    · rw [word.2 c written] at blank
      cases blank
    · exact isEscapedBlank_iff.mpr ⟨blank, undone⟩
  · cases read

variable {row : MountRow}

theorem lineFeed_not_mem_line : '\n' ∉ row.line := by
  have feed : isBlank '\n' = true := by decide
  have source : '\n' ∉ row.mount.source := by
    intro member
    rw [row.source_isWord.2 _ member] at feed
    cases feed
  have point : '\n' ∉ escape row.mount.mountPoint.text := by
    intro member
    rcases of_mem_escape member with other | ⟨-, unescaped⟩
    · rw [other] at feed
      cases feed
    · exact unescaped ("\\012".toList, '\n') (by decide) rfl
  have fields : '\n' ∉ spaced row.fields := not_mem_joined (by decide) row.fields_whole
  simp [line, source, point, fields]

theorem ofLine?_line
    (escaped : ∀ c ∈ row.mount.mountPoint.text, isBlank c = true → IsEscapedBlank c) :
    ofLine? row.line = some row.mount := by
  have point : IsWord (escape row.mount.mountPoint.text) := by
    refine ⟨escape_ne_nil row.point_ne_nil, ?_⟩
    intro c member
    rcases of_mem_escape member with other | ⟨stood, unescaped⟩
    · exact other
    · refine Bool.eq_false_iff.mpr ?_
      intro blank
      obtain ⟨-, entry, known, stands⟩ := isEscapedBlank_iff.mp (escaped c stood blank)
      exact unescaped entry known stands
  have words : words row.line =
      row.mount.source :: escape row.mount.mountPoint.text :: words (spaced row.fields) := by
    rw [line, words_cons_word row.source_isWord (by decide), words_cons_word point (by decide)]
  simp only [ofLine?, words, unescape_escape]

theorem parseTable_table (rows : List MountRow) :
    parseTable (table rows) = rows.filterMap fun row => ofLine? row.line := by
  have asLines : table rows = (rows.map line).flatMap fun text => text ++ ['\n'] := by
    rw [table, List.flatMap_map]
  have whole : ∀ text ∈ rows.map line, '\n' ∉ text :=
    List.forall_mem_map.mpr fun _ _ => lineFeed_not_mem_line
  rw [parseTable, asLines, lines_flatMap_ended whole, List.filterMap_map, List.filterMap_map]
  exact congrArg (List.filterMap · rows) (funext fun row => ofLine?_withoutReturn row.line)

/-- The mounts that are written are read again, in order, exactly when no mount point holds a
blank that is written as itself. -/
theorem parseTable_table_iff (rows : List MountRow) :
    parseTable (table rows) = rows.map mount ↔
      ∀ row ∈ rows, ∀ c ∈ row.mount.mountPoint.text, isBlank c = true → IsEscapedBlank c := by
  constructor
  · intro same row member c inPoint blank
    exact isEscapedBlank_of_mem_parseTable (same ▸ List.mem_map_of_mem member) inPoint blank
  · intro escaped
    rw [parseTable_table, ← List.filterMap_eq_map]
    refine List.filterMap_congr ?_
    intro row member
    exact ofLine?_line (escaped row member)

/-- A name may hold every blank that has an escape, and what looks like an escape. -/
theorem escaped_names_read_back :
    let fields := ["ext4".toList, "rw,relatime".toList, "0".toList, "0".toList]
    let disk : MountRow := ⟨⟨"/dev/sda1".toList, ⟨"/mnt/my\t\\040 disk\n".toList⟩⟩, fields,
      by decide, by decide, by decide⟩
    let share : MountRow := ⟨⟨"host:/srv".toList, ⟨" ".toList⟩⟩, fields,
      by decide, by decide, by decide⟩
    (∀ row ∈ [disk, share], ∀ c ∈ row.mount.mountPoint.text,
        isBlank c = true → IsEscapedBlank c) ∧
      parseTable (table [disk, share]) = [disk.mount, share.mount] := by
  intro fields disk share
  have escaped : ∀ row ∈ [disk, share], ∀ c ∈ row.mount.mountPoint.text,
      isBlank c = true → IsEscapedBlank c := by
    intro row member c inPoint blank
    have checked : ∀ row ∈ [disk, share], row.mount.mountPoint.text.all
        (fun c => !isBlank c || decide (IsEscapedBlank c)) = true := by
      decide
    simpa [blank] using List.all_eq_true.mp (checked row member) c inPoint
  exact ⟨escaped, (parseTable_table_iff [disk, share]).mpr escaped⟩

/-- A name is cut at a no-break space, which is written as itself. -/
theorem name_cut_at_no_break_space :
    let row : MountRow := ⟨⟨"/dev/sda1".toList, ⟨"/mnt/a\u00a0b".toList⟩⟩,
      ["ext4".toList, "rw".toList, "0".toList, "0".toList], by decide, by decide, by decide⟩
    parseTable (table [row]) = [⟨"/dev/sda1".toList, ⟨"/mnt/a".toList⟩⟩] ∧
      parseTable (table [row]) ≠ [row.mount] := by
  decide +kernel

end MountRow

end DiskPrep
