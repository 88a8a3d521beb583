import DiskPrep.Proofs.Text.Replace
import DiskPrep.Proofs.Text.Words
import DiskPrep.Report.Mounts

/-!
The escapes in the fields of a table of mounts. The reader undoes them in as many passes as
there are escapes, which comes to one pass over the field (`unescape_eq_decode`), in which nothing
that is put out is looked at again (`readOnce`). What was written with escapes is read back as it
was (`unescape_escape`), also where a name holds the characters of an escape.
-/
namespace DiskPrep.MountEntry

open Text

/-- A character as the kernel writes it in a field of the table. -/
def escapeChar : Char → Text
  | ' ' => "\\040".toList
  | '\t' => "\\011".toList
  | '\n' => "\\012".toList
  | '\\' => "\\134".toList
  | c => [c]

/-- A text as a field of the table. -/
def escape (t : Text) : Text := t.flatMap escapeChar

theorem isEscape_of_mem_escapes : ∀ entry ∈ escapes, IsEscape entry.1 := by
  decide

theorem unescape_eq_decode (field : Text) : unescape field = decode escapes field :=
  foldl_replaceAll_eq_decode isEscape_of_mem_escapes (by decide) field

/-- No escape begins as another does. -/
theorem escapeAt?_escape (rest : Text) :
    ∀ entry ∈ escapes, escapeAt? escapes (entry.1 ++ rest) = some entry := by
  simp only [escapes, List.forall_mem_cons]
  exact ⟨rfl, rfl, rfl, rfl, List.forall_mem_nil _⟩

/-- What the kernel escapes is what the reader undoes. -/
theorem escapeChar_cases (c : Char) :
    (escapeChar c, c) ∈ escapes ∨ (∀ entry ∈ escapes, entry.2 ≠ c) ∧ escapeChar c = [c] := by
  unfold escapeChar
  split
  case h_5 space tab feed backslash =>
    refine Or.inr ⟨?_, rfl⟩
    simp only [escapes, List.forall_mem_cons]
    exact ⟨Ne.symm space, Ne.symm tab, Ne.symm feed, Ne.symm backslash, List.forall_mem_nil _⟩
  all_goals exact Or.inl (by decide)

/-- The character is the first that is read of what was written for it. -/
theorem decode_escapeChar (c : Char) (rest : Text) :
    decode escapes (escapeChar c ++ rest) = c :: decode escapes rest := by
  rcases escapeChar_cases c with known | ⟨unescaped, copied⟩
  · exact decode_append (isEscape_of_mem_escapes _ known).ne_nil (escapeAt?_escape rest _ known)
  · -- The backslash has an escape of its own, so the character is none.
    have noBackslash : '\\' ∉ [c] := by
      intro member
      exact unescaped ("\\134".toList, '\\') (by decide) (List.mem_singleton.mp member)
    rw [copied]
    exact decode_append_copied isEscape_of_mem_escapes noBackslash rest

theorem unescape_escape (t : Text) : unescape (escape t) = t := by
  rw [unescape_eq_decode]
  induction t with
  | nil => rfl
  | cons c rest ih => rw [escape, List.flatMap_cons, decode_escapeChar, ← escape, ih]

/-- A blank that is written stood in the text, and has no escape. -/
theorem of_mem_escape {c : Char} {t : Text} (member : c ∈ escape t) :
    isBlank c = false ∨ c ∈ t ∧ ∀ entry ∈ escapes, entry.2 ≠ c := by
  obtain ⟨origin, stood, written⟩ := List.mem_flatMap.mp member
  rcases escapeChar_cases origin with known | ⟨unescaped, copied⟩
  · have words : ∀ entry ∈ escapes, IsWord entry.1 := by decide
    exact Or.inl ((words _ known).2 c written)
  · rw [copied] at written
    cases List.mem_singleton.mp written
    exact Or.inr ⟨stood, unescaped⟩

theorem escape_ne_nil {t : Text} (nonempty : t ≠ []) : escape t ≠ [] := by
  intro lost
  apply nonempty
  rw [← unescape_escape t, lost]
  rfl

/-- A field read once, from left to right: for an escape its character is put out and the escape is
passed over, every other character is copied, and what is put out is not looked at again. -/
def readOnce : Text → Text
  | '\\' :: '0' :: '4' :: '0' :: rest => ' ' :: readOnce rest
  | '\\' :: '0' :: '1' :: '1' :: rest => '\t' :: readOnce rest
  | '\\' :: '0' :: '1' :: '2' :: rest => '\n' :: readOnce rest
  | '\\' :: '1' :: '3' :: '4' :: rest => '\\' :: readOnce rest
  | c :: rest => c :: readOnce rest
  | [] => []

theorem readOnce_escape (rest : Text) :
    ∀ entry ∈ escapes, readOnce (entry.1 ++ rest) = entry.2 :: readOnce rest := by
  simp only [escapes, List.forall_mem_cons]
  exact ⟨rfl, rfl, rfl, rfl, List.forall_mem_nil _⟩

theorem readOnce_cons {c : Char} {rest : Text}
    (absent : ∀ entry ∈ escapes, ¬ entry.1 <+: c :: rest) :
    readOnce (c :: rest) = c :: readOnce rest := by
  simp only [escapes, List.forall_mem_cons] at absent
  obtain ⟨space, tab, feed, backslash, -⟩ := absent
  rw [readOnce]
  · rintro behind rfl rfl
    exact space ⟨behind, rfl⟩
  · rintro behind rfl rfl
    exact tab ⟨behind, rfl⟩
  · rintro behind rfl rfl
    exact feed ⟨behind, rfl⟩
  · rintro behind rfl rfl
    exact backslash ⟨behind, rfl⟩

theorem readOnce_eq_decode (t : Text) : readOnce t = decode escapes t := by
  induction t using decode_induction isEscape_of_mem_escapes with
  | nil => rfl
  | undo escape c rest known found ih =>
    rw [readOnce_escape rest _ known, ih, decode_append (isEscape_of_mem_escapes _ known).ne_nil found]
  | copy c rest absent ih =>
    rw [readOnce_cons (escapeAt?_eq_none.mp absent), ih, decode_cons absent]

/-- The passes of the reader, one for each escape, are one reading from left to right, which undoes
what the writer of the table does to any text. -/
theorem unescape_in_one_pass (t : Text) :
    unescape t = readOnce t ∧ unescape (escape t) = t :=
  ⟨(unescape_eq_decode t).trans (readOnce_eq_decode t).symm, unescape_escape t⟩

/-- The backslash that is put out makes no escape with what stands behind it. -/
example : unescape "\\134040\\04\\040".toList = "\\040\\04 ".toList := by decide

end DiskPrep.MountEntry
