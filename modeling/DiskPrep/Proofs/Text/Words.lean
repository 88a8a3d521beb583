import DiskPrep.Text.Basic

/-!
Pieces and words of a text. A text cut at a character has pieces without it, which joined again
are the text (`splitOn_eq_iff`) and are what stands between cuts (`mem_splitOn_iff`). A blank
stands between words and in none of them (`words_append_cons`), so a text without blanks is one
word (`words_of_isWord`), only a text of blanks has no word (`words_eq_nil_iff`), and a text has
the words that it is made of (`words_eq_iff`).
-/
namespace DiskPrep.Text

/-- The text is one word: it is not empty and holds no blank. -/
def IsWord (t : Text) : Prop := t ≠ [] ∧ ∀ c ∈ t, isBlank c = false

instance (t : Text) : Decidable (IsWord t) :=
  decidable_of_iff (t ≠ [] ∧ t.all (fun c => !isBlank c) = true) (by simp [IsWord])

def AllBlank (t : Text) : Prop := ∀ c ∈ t, isBlank c = true

instance (t : Text) : Decidable (AllBlank t) :=
  decidable_of_iff (t.all isBlank = true) (by simp [AllBlank])

/-- No piece between two cuts holds a character that was cut at. -/
theorem not_of_mem_splitOnP {p : Char → Bool} {t piece : Text} (member : piece ∈ t.splitOnP p) :
    ∀ c ∈ piece, p c = false := by
  induction t generalizing piece with
  | nil =>
    rw [List.splitOnP_nil, List.mem_singleton] at member
    simp [member]
  | cons head rest ih =>
    rw [List.splitOnP_cons_eq_if_modifyHead] at member
    split at member
    next =>
      rcases List.mem_cons.mp member with rfl | member
      · exact fun c absent => absurd absent List.not_mem_nil
      · exact ih member
    next uncut =>
      obtain ⟨first, more, eq⟩ := List.exists_cons_of_ne_nil (List.splitOnP_ne_nil p rest)
      rw [eq, List.modifyHead_cons] at member
      rcases List.mem_cons.mp member with rfl | member
      · exact List.forall_mem_cons.mpr ⟨Bool.eq_false_iff.mpr uncut, ih (eq ▸ List.mem_cons_self)⟩
      · exact ih (eq ▸ List.mem_cons_of_mem first member)

/-- No piece between two cuts holds the character that was cut at. -/
theorem not_mem_of_mem_splitOn {c : Char} {t piece : Text} (member : piece ∈ t.splitOn c) :
    c ∉ piece := by
  intro held
  rw [List.splitOn_eq_splitOnP] at member
  exact absurd (not_of_mem_splitOnP member c held) (by simp)

/-- The text is cut into the pieces: none holds the separator, and joined with it they are the
text. -/
def CutAt (separator : Char) (t : Text) (pieces : List Text) : Prop :=
  pieces ≠ [] ∧ (∀ piece ∈ pieces, separator ∉ piece) ∧ joined [separator] pieces = t

theorem splitOn_eq_iff {c : Char} {t : Text} {pieces : List Text} :
    t.splitOn c = pieces ↔ CutAt c t pieces := by
  constructor
  · rintro rfl
    exact ⟨List.splitOn_ne_nil c t, fun _ member => not_mem_of_mem_splitOn member,
      List.intercalate_splitOn c⟩
  · rintro ⟨nonempty, whole, rfl⟩
    exact List.splitOn_intercalate c whole nonempty

/-- A piece holds no separator, and a separator or an end of the text stands on either side. -/
theorem mem_splitOn_iff {c : Char} {t piece : Text} :
    piece ∈ t.splitOn c ↔ c ∉ piece ∧ ∃ front back, t = front ++ piece ++ back ∧
      (∀ d ∈ front.getLast?, d = c) ∧ ∀ d ∈ back.head?, d = c := by
  constructor
  · intro member
    refine ⟨not_mem_of_mem_splitOn member, ?_⟩
    -- By induction on the length of the text: a later piece stands in what the first cut leaves.
    induction size : t.length using Nat.strongRecOn generalizing t with
    | ind n ih =>
      by_cases cut : c ∈ t
      · obtain ⟨first, rest, rfl, whole⟩ := List.eq_append_cons_of_mem cut
        rw [List.splitOn_append_cons_self_of_not_mem whole, List.mem_cons] at member
        rcases member with rfl | later
        · exact ⟨[], c :: rest, rfl, by simp, by simp⟩
        · have shorter : rest.length < n := by
            rw [← size, List.length_append, List.length_cons]
            omega
          obtain ⟨front, back, rfl, starts, ends⟩ := ih rest.length shorter later rfl
          refine ⟨first ++ c :: front, back, by simp, ?_, ends⟩
          cases front with
          | nil => simp
          | cons head tail => simpa [List.getLast?_cons_cons] using starts
      · rw [List.splitOn_eq_singleton cut, List.mem_singleton] at member
        exact ⟨[], [], by simp [member], by simp, by simp⟩
  · rintro ⟨whole, front, back, rfl, starts, ends⟩
    have first : piece ∈ (piece ++ back).splitOn c := by
      cases back with
      | nil => simp [List.splitOn_eq_singleton whole]
      | cons d rest =>
        cases ends d rfl
        simp [List.splitOn_append_cons_self_of_not_mem whole]
    rcases List.eq_nil_or_concat front with rfl | ⟨before, d, rfl⟩
    · exact first
    · cases starts d (by simp)
      rw [List.concat_eq_append, List.append_assoc, List.append_assoc, List.singleton_append,
        List.splitOn_append_cons_self]
      exact List.mem_append_right _ first

theorem length_splitOn (c : Char) (t : Text) : (t.splitOn c).length = t.count c + 1 := by
  induction t with
  | nil => rfl
  | cons head rest ih =>
    rw [List.splitOn_cons_eq_if_modifyHead, List.count_cons]
    split <;> simp_all

theorem spaced_cons_cons (first second : Text) (rest : List Text) :
    spaced (first :: second :: rest) = first ++ ' ' :: spaced (second :: rest) := by
  simp [spaced, joined, List.intercalate]

theorem isWord_of_mem_words {t w : Text} (member : w ∈ words t) : IsWord w := by
  obtain ⟨piece, nonempty⟩ := List.mem_filter.mp member
  exact ⟨by simpa using nonempty, not_of_mem_splitOnP piece⟩

/-- What stands before a blank and what stands behind it have their words apart. -/
theorem words_append_cons (t rest : Text) {c : Char} (blank : isBlank c = true) :
    words (t ++ c :: rest) = words t ++ words rest := by
  rw [words, List.splitOnP_append_cons t rest blank, List.filter_append, words, words]

theorem words_append_blank (t : Text) {c : Char} (blank : isBlank c = true) :
    words (t ++ [c]) = words t := by
  rw [words_append_cons t [] blank]
  exact List.append_nil _

theorem words_of_isWord {w : Text} (word : IsWord w) : words w = [w] := by
  rw [words, List.splitOnP_eq_singleton word.2]
  simp [word.1]

theorem words_cons_word {w : Text} (word : IsWord w) {c : Char} (blank : isBlank c = true)
    (rest : Text) : words (w ++ c :: rest) = w :: words rest := by
  rw [words_append_cons w rest blank, words_of_isWord word]
  rfl

theorem words_eq_nil_iff {t : Text} : words t = [] ↔ AllBlank t := by
  unfold AllBlank
  induction t with
  | nil => simp [words]
  | cons c rest ih =>
    by_cases blank : isBlank c = true
    · rw [← List.nil_append (c :: rest), words_append_cons [] rest blank, List.nil_append,
        List.forall_mem_cons]
      exact ih.trans (and_iff_right blank).symm
    · -- The first character stands in the first piece, which is therefore a word.
      obtain ⟨first, more, pieces⟩ :=
        List.exists_cons_of_ne_nil (List.splitOnP_ne_nil isBlank rest)
      have found : words (c :: rest) ≠ [] := by
        simp [words, List.splitOnP_cons_eq_if_modifyHead, blank, pieces]
      exact iff_of_false found fun all => blank (all c List.mem_cons_self)

theorem words_append_left {front : Text} (blank : AllBlank front) (t : Text) :
    words (front ++ t) = words t := by
  induction front with
  | nil => rfl
  | cons c rest ih =>
    obtain ⟨here, later⟩ := List.forall_mem_cons.mp blank
    rw [List.cons_append, ← List.nil_append (c :: (rest ++ t)), words_append_cons [] _ here, ih later]
    rfl

/-- The text is made of the words: at least one blank stands between two of them, and any number
before the first and behind the last. -/
inductive Spaced : List Text → Text → Prop where
  | blank {t : Text} (blank : AllBlank t) : Spaced [] t
  | word {word front rest : Text} {others : List Text} (blank : AllBlank front)
      (isWord : IsWord word) (apart : ∀ c ∈ rest.head?, isBlank c = true)
      (behind : Spaced others rest) : Spaced (word :: others) (front ++ word ++ rest)

theorem words_of_spaced {t : Text} {parts : List Text} (made : Spaced parts t) :
    words t = parts := by
  induction made with
  | blank blank => exact words_eq_nil_iff.mpr blank
  | @word word front rest others blank isWord apart behind ih =>
    rw [List.append_assoc, words_append_left blank]
    cases rest with
    | nil =>
      rw [List.append_nil, words_of_isWord isWord, ← ih]
      rfl
    | cons c tail =>
      have here : isBlank c = true := apart c rfl
      rw [words_cons_word isWord here, ← ih, ← List.nil_append (c :: tail),
        words_append_cons [] tail here]
      rfl

/-- One more character in front belongs to the blanks there, to the first word, or is a word. -/
theorem Spaced.exists_cons {parts : List Text} {t : Text} (made : Spaced parts t) (c : Char) :
    ∃ parts, Spaced parts (c :: t) := by
  by_cases blank : isBlank c = true
  · cases made with
    | blank all => exact ⟨[], .blank (List.forall_mem_cons.mpr ⟨blank, all⟩)⟩
    | word all isWord apart behind =>
      exact ⟨_, .word (List.forall_mem_cons.mpr ⟨blank, all⟩) isWord apart behind⟩
  · have none_before : AllBlank [] := by decide
    have alone : IsWord [c] := ⟨List.cons_ne_nil c [], by simpa using blank⟩
    cases made with
    | blank all =>
      exact ⟨_, .word none_before alone (fun d first => all d (List.mem_of_mem_head? first))
        (.blank all)⟩
    | @word word front rest others all isWord apart behind =>
      cases front with
      | nil =>
        have longer : IsWord (c :: word) :=
          ⟨List.cons_ne_nil c word, List.forall_mem_cons.mpr ⟨by simpa using blank, isWord.2⟩⟩
        exact ⟨_, .word none_before longer apart behind⟩
      | cons d front =>
        exact ⟨_, .word none_before alone (by simpa using all d List.mem_cons_self)
          (.word all isWord apart behind)⟩

/-- Every text is made of some words. -/
theorem exists_spaced (t : Text) : ∃ parts, Spaced parts t := by
  induction t with
  | nil => exact ⟨[], .blank (by decide)⟩
  | cons c rest ih =>
    obtain ⟨parts, made⟩ := ih
    exact made.exists_cons c

theorem words_eq_iff {t : Text} {parts : List Text} : words t = parts ↔ Spaced parts t := by
  constructor
  · rintro rfl
    obtain ⟨parts, made⟩ := exists_spaced t
    rwa [words_of_spaced made]
  · exact words_of_spaced

end DiskPrep.Text
