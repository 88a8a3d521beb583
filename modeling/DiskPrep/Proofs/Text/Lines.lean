import DiskPrep.Proofs.Text.Words

/-!
Lines that are cut out of a text and joined again. The text that results need not be
the old one: carriage returns and empty lines at its end may be lost. A reader that
sees neither of them reads the same (`filterMap_lines_joined`).
-/
namespace DiskPrep.Text

theorem words_withoutReturn (line : Text) : words (withoutReturn line) = words line := by
  unfold withoutReturn
  split
  next ends =>
    obtain ⟨start, rfl⟩ := List.getLast?_eq_some_iff.mp ends
    rw [List.dropLast_concat, words_append_blank start (by decide)]
  next => rfl

theorem withoutReturn_sublist (line : Text) : (withoutReturn line).Sublist line := by
  unfold withoutReturn
  split
  · exact List.dropLast_sublist line
  · exact List.Sublist.refl line

theorem lineFeed_not_mem_line {t line : Text} (member : line ∈ lines t) : '\n' ∉ line := by
  simp only [lines, List.mem_append, List.mem_map] at member
  rcases member with ⟨piece, inside, rfl⟩ | final
  · intro feed
    exact not_mem_of_mem_splitOn ((List.dropLast_sublist _).subset inside)
      ((withoutReturn_sublist piece).subset feed)
  · split at final
    · exact absurd final List.not_mem_nil
    · rw [List.mem_singleton.mp final]
      refine not_mem_of_mem_splitOn (t := t) ?_
      rw [List.getLastD_eq_getLast?, List.getLast?_eq_some_getLast (List.splitOn_ne_nil '\n' t)]
      exact List.getLast_mem _

/-- Lines that were each ended by a line feed are those lines, less a carriage return each. -/
theorem lines_flatMap_ended {ls : List Text} (whole : ∀ line ∈ ls, '\n' ∉ line) :
    lines (ls.flatMap fun line => line ++ ['\n']) = ls.map withoutReturn := by
  have pieces : (ls.flatMap fun line => line ++ ['\n']).splitOn '\n' = ls ++ [[]] := by
    induction ls with
    | nil => exact List.splitOn_nil '\n'
    | cons line rest ih =>
      obtain ⟨first, others⟩ := List.forall_mem_cons.mp whole
      rw [List.flatMap_cons, List.append_assoc, List.singleton_append,
        List.splitOn_append_cons_self_of_not_mem first, ih others, List.cons_append]
  simp only [lines, pieces, List.dropLast_concat, List.getLastD_concat]
  exact List.append_nil _

/-- What follows the last line feed of a text. -/
theorem exists_last_line {t : Text} (cut : '\n' ∈ t) :
    ∃ before line, t = before ++ '\n' :: line ∧ '\n' ∉ line := by
  obtain ⟨line, before, reversed, whole⟩ := List.eq_append_cons_of_mem (List.mem_reverse.mpr cut)
  refine ⟨before.reverse, line.reverse, ?_, by simpa using whole⟩
  rw [← List.reverse_reverse t, reversed]
  simp

theorem not_mem_joined {c : Char} {separator : Text} {parts : List Text} (apart : c ∉ separator)
    (absent : ∀ part ∈ parts, c ∉ part) : c ∉ joined separator parts := by
  rw [joined]
  induction parts with
  | nil => exact List.not_mem_nil
  | cons part rest ih =>
    obtain ⟨first, others⟩ := List.forall_mem_cons.mp absent
    cases rest with
    | nil => simpa using first
    | cons second more =>
      rw [List.intercalate_cons_cons, List.mem_append, List.mem_append]
      exact not_or.mpr ⟨not_or.mpr ⟨first, apart⟩, ih others⟩

section reader

variable {β : Type} (read : Text → Option β)
  (blind : ∀ line, read (withoutReturn line) = read line) (empty : read [] = none)

include blind empty

/-- For a reader that sees no carriage return at the end, the lines are the pieces
between line feeds. -/
theorem filterMap_lines (t : Text) :
    (lines t).filterMap read = (t.splitOn '\n').filterMap read := by
  obtain ⟨init, last, pieces⟩ : ∃ init last, t.splitOn '\n' = init ++ [last] :=
    ⟨_, _, (List.dropLast_concat_getLast (List.splitOn_ne_nil '\n' t)).symm⟩
  have returns_unseen : (init.map withoutReturn).filterMap read = init.filterMap read := by
    rw [List.filterMap_map]
    exact congrArg (List.filterMap · init) (funext blind)
  simp only [lines, pieces, List.dropLast_concat, List.filterMap_append, returns_unseen]
  congr 1
  by_cases blank : last = []
  · simp [blank, empty]
  · simp [blank, List.getLastD_eq_getLast?]

/-- What a line feed parts is read apart. -/
theorem filterMap_lines_append (t rest : Text) :
    (lines (t ++ '\n' :: rest)).filterMap read =
      (lines t).filterMap read ++ (lines rest).filterMap read := by
  simp only [filterMap_lines read blind empty, List.splitOn_append_cons_self,
    List.filterMap_append]

/-- A text without a line feed is one line. -/
theorem filterMap_lines_line {line : Text} (whole : '\n' ∉ line) :
    (lines line).filterMap read = (read line).toList := by
  rw [filterMap_lines read blind empty, List.splitOn_eq_singleton whole]
  cases found : read line <;> simp [found]

/-- What was cut into lines and joined again reads as the lines did. -/
theorem filterMap_lines_joined {ls : List Text} (whole : ∀ line ∈ ls, '\n' ∉ line) :
    (lines (joined ['\n'] ls)).filterMap read = ls.filterMap read := by
  rw [filterMap_lines read blind empty, joined]
  by_cases none_left : ls = []
  · simp [none_left, List.splitOn_eq_splitOnP, empty]
  · rw [List.splitOn_intercalate '\n' whole none_left]

end reader

end DiskPrep.Text
