import DiskPrep.Proofs.Text.Lines
import Mathlib.Data.List.TakeWhile

/-!
Texts without the blanks at their ends. Trimming takes blanks away at both ends and nothing else
(`exists_trim`). A text is therefore read line by line as it is read trimmed, by a reader that
trims every line (`filterMap_lines_trim`), although trimming the whole may take lines away.
-/
namespace DiskPrep.Text

theorem dropEndWhile_append {p : Char → Bool} (t : Text) {back : Text}
    (dropped : ∀ c ∈ back, p c = true) : dropEndWhile p (t ++ back) = dropEndWhile p t := by
  have reversed : ∀ c ∈ back.reverse, p c = true := by simpa using dropped
  rw [dropEndWhile, List.reverse_append, List.dropWhile_append_of_pos reversed, dropEndWhile]

theorem dropEndWhile_concat {p : Char → Bool} (t : Text) {c : Char} (kept : p c = false) :
    dropEndWhile p (t ++ [c]) = t ++ [c] := by
  simp [dropEndWhile, kept]

theorem trim_append_left {front : Text} (blank : AllBlank front) (t : Text) :
    trim (front ++ t) = trim t := by
  rw [trim, List.dropWhile_append_of_pos blank, trim]

theorem trim_append_right (t : Text) {back : Text} (blank : AllBlank back) :
    trim (t ++ back) = trim t := by
  rw [trim, trim, List.dropWhile_append]
  split
  next nothing => rw [List.dropWhile_eq_nil_iff.mpr blank, List.isEmpty_iff.mp nothing]
  next => exact dropEndWhile_append _ blank

/-- A text that goes on and ends with characters that are no blanks loses only blanks in front. -/
theorem trim_append_kept {first last : Char} (front mid : Text) (firstKept : isBlank first = false)
    (lastKept : isBlank last = false) :
    trim (front ++ (first :: mid ++ [last])) =
      front.dropWhile isBlank ++ (first :: mid ++ [last]) := by
  have ahead : (front ++ (first :: mid ++ [last])).dropWhile isBlank =
      front.dropWhile isBlank ++ (first :: mid ++ [last]) := by
    rw [List.dropWhile_append]
    split
    next nothing =>
      rw [List.isEmpty_iff.mp nothing, List.nil_append, List.cons_append, List.dropWhile_cons_of_neg]
      simp [firstKept]
    next => rfl
  rw [trim, ahead, ← List.append_assoc, dropEndWhile_concat _ lastKept]

/-- Trimming takes blanks away at both ends, and nothing else. -/
theorem exists_trim (t : Text) :
    ∃ front back, AllBlank front ∧ AllBlank back ∧ t = front ++ trim t ++ back := by
  have ends : t.dropWhile isBlank =
      trim t ++ ((t.dropWhile isBlank).reverse.takeWhile isBlank).reverse := by
    rw [trim, dropEndWhile, ← List.reverse_append, List.takeWhile_append_dropWhile,
      List.reverse_reverse]
  refine ⟨t.takeWhile isBlank, ((t.dropWhile isBlank).reverse.takeWhile isBlank).reverse, ?_, ?_, ?_⟩
  · exact fun c member => List.mem_takeWhile_imp member
  · exact fun c member => List.mem_takeWhile_imp (List.mem_reverse.mp member)
  · rw [List.append_assoc, ← ends, List.takeWhile_append_dropWhile]

theorem trim_of_no_blank {t : Text} (whole : ∀ c ∈ t, isBlank c = false) : trim t = t := by
  have kept {part : Text} (whole : ∀ c ∈ part, isBlank c = false) :
      part.dropWhile isBlank = part := by
    cases part with
    | nil => rfl
    | cons c rest => exact List.dropWhile_cons_of_neg (by simp [whole c List.mem_cons_self])
  rw [trim, kept whole, dropEndWhile, kept (by simpa using whole), List.reverse_reverse]

theorem trim_trim (t : Text) : trim (trim t) = trim t := by
  obtain ⟨front, back, frontBlank, backBlank, padded⟩ := exists_trim t
  calc trim (trim t) = trim (front ++ trim t ++ back) := by
        rw [trim_append_right _ backBlank, trim_append_left frontBlank]
    _ = trim t := by rw [← padded]

/-- A character that is no blank is trimmed nowhere. -/
theorem count_trim {c : Char} (kept : isBlank c = false) (t : Text) :
    (trim t).count c = t.count c := by
  obtain ⟨front, back, frontBlank, backBlank, padded⟩ := exists_trim t
  have absent {part : Text} (blank : AllBlank part) : part.count c = 0 := by
    refine List.count_eq_zero_of_not_mem fun member => ?_
    rw [blank c member] at kept
    cases kept
  calc (trim t).count c = (front ++ trim t ++ back).count c := by
        simp [absent frontBlank, absent backBlank]
    _ = t.count c := by rw [← padded]

theorem trim_withoutReturn (line : Text) : trim (withoutReturn line) = trim line := by
  unfold withoutReturn
  split
  next ends =>
    obtain ⟨start, rfl⟩ := List.getLast?_eq_some_iff.mp ends
    rw [List.dropLast_concat, trim_append_right start (by decide)]
  next => rfl

section reader

variable {β : Type} (read : Text → Option β)
  (blind : ∀ line, read (trim line) = read line) (empty : read [] = none)

include blind

theorem read_withoutReturn (line : Text) : read (withoutReturn line) = read line := by
  rw [← blind, trim_withoutReturn, blind]

include empty

/-- Two lines that are the same when trimmed read the same. -/
theorem filterMap_lines_line_congr {line other : Text} (same : trim line = trim other)
    (whole : '\n' ∉ line) (otherWhole : '\n' ∉ other) :
    (lines line).filterMap read = (lines other).filterMap read := by
  have returns := read_withoutReturn read blind
  rw [filterMap_lines_line read returns empty whole,
    filterMap_lines_line read returns empty otherWhole, ← blind line, same, blind]

theorem filterMap_lines_cons_blank {c : Char} (blank : isBlank c = true) (t : Text) :
    (lines (c :: t)).filterMap read = (lines t).filterMap read := by
  have apart := filterMap_lines_append read (read_withoutReturn read blind) empty
  have unseen (line : Text) : trim (c :: line) = trim line :=
    @trim_append_left [c] (by simpa [AllBlank] using blank) line
  by_cases feed : c = '\n'
  · subst feed
    exact apart [] t
  · by_cases cut : '\n' ∈ t
    · obtain ⟨line, rest, rfl, whole⟩ := List.eq_append_cons_of_mem cut
      rw [← List.cons_append, apart, apart, filterMap_lines_line_congr read blind empty
        (unseen line) (by simp [whole, Ne.symm feed]) whole]
    · exact filterMap_lines_line_congr read blind empty (unseen t) (by simp [cut, Ne.symm feed]) cut

theorem filterMap_lines_concat_blank {c : Char} (blank : isBlank c = true) (t : Text) :
    (lines (t ++ [c])).filterMap read = (lines t).filterMap read := by
  have apart := filterMap_lines_append read (read_withoutReturn read blind) empty
  have unseen (line : Text) : trim (line ++ [c]) = trim line :=
    trim_append_right line (by simpa [AllBlank] using blank)
  by_cases feed : c = '\n'
  · subst feed
    rw [apart]
    exact List.append_nil _
  · by_cases cut : '\n' ∈ t
    · obtain ⟨before, line, rfl, whole⟩ := exists_last_line cut
      rw [List.append_assoc, List.cons_append, apart, apart, filterMap_lines_line_congr read blind
        empty (unseen line) (by simp [whole, Ne.symm feed]) whole]
    · exact filterMap_lines_line_congr read blind empty (unseen t) (by simp [cut, Ne.symm feed]) cut

/-- Blanks at the ends of a text are not read, even where they are lines of their own. -/
theorem filterMap_lines_trim (t : Text) :
    (lines (trim t)).filterMap read = (lines t).filterMap read := by
  obtain ⟨front, back, frontBlank, backBlank, padded⟩ := exists_trim t
  have left {front : Text} (frontBlank : AllBlank front) (t : Text) :
      (lines (front ++ t)).filterMap read = (lines t).filterMap read := by
    induction front with
    | nil => rfl
    | cons c rest ih =>
      obtain ⟨here, later⟩ := List.forall_mem_cons.mp frontBlank
      rw [List.cons_append, filterMap_lines_cons_blank read blind empty here, ih later]
  have right {back : Text} (backBlank : AllBlank back) (t : Text) :
      (lines (t ++ back)).filterMap read = (lines t).filterMap read := by
    induction back generalizing t with
    | nil => rw [List.append_nil]
    | cons c rest ih =>
      obtain ⟨here, later⟩ := List.forall_mem_cons.mp backBlank
      rw [List.append_cons, ih later, filterMap_lines_concat_blank read blind empty here]
  calc (lines (trim t)).filterMap read = (lines (front ++ trim t ++ back)).filterMap read := by
        rw [right backBlank, left frontBlank]
    _ = (lines t).filterMap read := by rw [← padded]

end reader

end DiskPrep.Text
