import DiskPrep.Text.Replace
import Mathlib.Data.List.Induction

/-!
Replacing escapes by the characters they stand for. One pass for each escape is as good as a
single pass that looks for all of them (`foldl_replaceAll_eq_decode`): a character that was put
in by an earlier pass is in no later escape, so a later pass finds only what stood in the text.
-/
namespace DiskPrep.Text

theorem replaceFrom_eq_drop (word replacement : Text) (skip : Nat) (t : Text) :
    replaceFrom word replacement skip t = replaceAll word replacement (t.drop skip) := by
  induction t generalizing skip with
  | nil => cases skip <;> rfl
  | cons c rest ih =>
    cases skip with
    | zero => rfl
    | succ skip => exact ih skip

theorem replaceAll_append {word : Text} (nonempty : word ≠ []) (replacement rest : Text) :
    replaceAll word replacement (word ++ rest) =
      replacement ++ replaceAll word replacement rest := by
  obtain ⟨c, tail, rfl⟩ := List.exists_cons_of_ne_nil nonempty
  have found : (c :: tail).isPrefixOf (c :: (tail ++ rest)) = true :=
    List.isPrefixOf_iff_prefix.mpr ⟨rest, rfl⟩
  rw [replaceAll, List.cons_append, replaceFrom, if_pos found, replaceFrom_eq_drop,
    List.length_cons, Nat.add_sub_cancel, List.drop_left]

theorem replaceAll_cons {word : Text} {c : Char} {rest : Text} (absent : ¬ word <+: c :: rest)
    (replacement : Text) :
    replaceAll word replacement (c :: rest) = c :: replaceAll word replacement rest := by
  rw [replaceAll, replaceFrom, if_neg (mt List.isPrefixOf_iff_prefix.mp absent)]
  rfl

/-- The escape that the text begins with, and the character it stands for. -/
def escapeAt? (code : List (Text × Char)) (t : Text) : Option (Text × Char) :=
  code.find? fun entry => entry.1.isPrefixOf t

/-- The text with the escapes of a code undone in one pass, but for `skip` characters at its
start, which belong to an escape already undone. -/
def decodeFrom (code : List (Text × Char)) : Nat → Text → Text
  | _, [] => []
  | skip + 1, _ :: rest => decodeFrom code skip rest
  | 0, c :: rest =>
    match escapeAt? code (c :: rest) with
    | some (escape, plain) => plain :: decodeFrom code (escape.length - 1) rest
    | none => c :: decodeFrom code 0 rest

/-- The text with the escapes of a code undone, from left to right in one pass. -/
def decode (code : List (Text × Char)) (t : Text) : Text := decodeFrom code 0 t

/-- An escape begins with a backslash and holds no other. -/
def IsEscape (t : Text) : Prop := t.head? = some '\\' ∧ '\\' ∉ t.tail

instance (t : Text) : Decidable (IsEscape t) := inferInstanceAs (Decidable (_ ∧ _))

theorem IsEscape.eq_cons {t : Text} (isEscape : IsEscape t) :
    ∃ tail, t = '\\' :: tail ∧ '\\' ∉ tail := by
  obtain ⟨head, tail⟩ := isEscape
  cases t with
  | nil => cases head
  | cons c rest =>
    cases head
    exact ⟨rest, rfl, tail⟩

theorem IsEscape.ne_nil {t : Text} (isEscape : IsEscape t) : t ≠ [] := by
  rintro rfl
  cases isEscape.1

section decode

variable {code : List (Text × Char)} {escape : Text} {plain : Char}

theorem prefix_of_escapeAt? {t : Text} (found : escapeAt? code t = some (escape, plain)) :
    (escape, plain) ∈ code ∧ escape <+: t := by
  have begins : escape.isPrefixOf t = true := by
    rw [escapeAt?, List.find?_eq_some_iff_append] at found
    exact found.1
  exact ⟨List.mem_of_find?_eq_some found, List.isPrefixOf_iff_prefix.mp begins⟩

theorem escapeAt?_eq_none {t : Text} :
    escapeAt? code t = none ↔ ∀ entry ∈ code, ¬ entry.1 <+: t := by
  simp [escapeAt?, List.isPrefixOf_iff_prefix]

theorem decodeFrom_eq_drop (code : List (Text × Char)) (skip : Nat) (t : Text) :
    decodeFrom code skip t = decode code (t.drop skip) := by
  induction t generalizing skip with
  | nil => cases skip <;> rfl
  | cons c rest ih =>
    cases skip with
    | zero => rfl
    | succ skip => exact ih skip

theorem decode_append {rest : Text} (nonempty : escape ≠ [])
    (found : escapeAt? code (escape ++ rest) = some (escape, plain)) :
    decode code (escape ++ rest) = plain :: decode code rest := by
  obtain ⟨c, tail, rfl⟩ := List.exists_cons_of_ne_nil nonempty
  rw [List.cons_append] at found ⊢
  rw [decode, decodeFrom, found]
  dsimp only
  rw [decodeFrom_eq_drop, List.length_cons, Nat.add_sub_cancel, List.drop_left]

theorem decode_cons {c : Char} {rest : Text} (absent : escapeAt? code (c :: rest) = none) :
    decode code (c :: rest) = c :: decode code rest := by
  rw [decode, decodeFrom, absent]
  rfl

variable (escapes : ∀ entry ∈ code, IsEscape entry.1)

include escapes

/-- A text is empty, or begins with an escape, or with a character that begins none. -/
theorem decode_induction {motive : Text → Prop} (nil : motive [])
    (undo : ∀ escape plain rest, (escape, plain) ∈ code →
      escapeAt? code (escape ++ rest) = some (escape, plain) → motive rest →
      motive (escape ++ rest))
    (copy : ∀ c rest, escapeAt? code (c :: rest) = none → motive rest → motive (c :: rest))
    (t : Text) : motive t := by
  induction size : t.length using Nat.strongRecOn generalizing t with
  | ind n ih =>
    cases t with
    | nil => exact nil
    | cons c rest =>
      cases found : escapeAt? code (c :: rest) with
      | none => exact copy c rest found (ih rest.length (by simp [← size]) rest rfl)
      | some entry =>
        obtain ⟨escape, plain⟩ := entry
        obtain ⟨known, more, eq⟩ := prefix_of_escapeAt? found
        have nonempty : 0 < escape.length := List.length_pos_iff.mpr (escapes _ known).ne_nil
        have shorter : more.length < n := by
          rw [← size, ← eq, List.length_append]
          omega
        rw [← eq] at found ⊢
        exact undo escape plain more known found (ih more.length shorter more rfl)

/-- Decoding puts in no character but those that escapes stand for. -/
theorem mem_of_mem_decode {c : Char} (t : Text) (member : c ∈ decode code t) :
    c ∈ t ∨ ∃ entry ∈ code, entry.2 = c := by
  induction t using decode_induction escapes with
  | nil => exact absurd member List.not_mem_nil
  | undo escape plain rest known found ih =>
    rw [decode_append (escapes _ known).ne_nil found] at member
    rcases List.mem_cons.mp member with rfl | behind
    · exact Or.inr ⟨_, known, rfl⟩
    · exact (ih behind).imp_left (List.mem_append_right escape)
  | copy first rest absent ih =>
    rw [decode_cons absent] at member
    rcases List.mem_cons.mp member with rfl | behind
    · exact Or.inl List.mem_cons_self
    · exact (ih behind).imp_left (List.mem_cons_of_mem first)

/-- A text without backslashes is copied with what stands before it. -/
theorem decode_append_copied {copied : Text} (plainText : '\\' ∉ copied) (rest : Text) :
    decode code (copied ++ rest) = copied ++ decode code rest := by
  induction copied with
  | nil => rfl
  | cons c tail ih =>
    obtain ⟨here, later⟩ := not_or.mp (mt List.mem_cons.mpr plainText)
    have absent : escapeAt? code (c :: (tail ++ rest)) = none := by
      refine escapeAt?_eq_none.mpr ?_
      intro entry known begins
      obtain ⟨behind, eq, -⟩ := (escapes entry known).eq_cons
      rw [eq] at begins
      exact here (List.cons_prefix_cons.mp begins).1
    rw [List.cons_append, decode_cons absent, ih later, List.cons_append]

/-- What the decoded text begins with, and was not put in, the text began with. -/
theorem prefix_of_prefix_decode {word t : Text} (notPut : ∀ entry ∈ code, entry.2 ∉ word)
    (begins : word <+: decode code t) : word <+: t := by
  induction t using decode_induction escapes generalizing word with
  | nil => exact begins
  | undo escape plain rest known found ih =>
    rw [decode_append (escapes _ known).ne_nil found] at begins
    rcases List.prefix_cons_iff.mp begins with rfl | ⟨tail, rfl, -⟩
    · exact List.nil_prefix
    · exact absurd List.mem_cons_self (notPut _ known)
  | copy c rest absent ih =>
    rw [decode_cons absent] at begins
    rcases List.prefix_cons_iff.mp begins with rfl | ⟨tail, rfl, behind⟩
    · exact List.nil_prefix
    · refine List.cons_prefix_cons.mpr ⟨rfl, ih ?_ behind⟩
      exact fun entry known put => notPut entry known (List.mem_cons_of_mem c put)

section pass

variable (isEscape : IsEscape escape) (notPut : ∀ entry ∈ code, entry.2 ∉ escape)

include isEscape

/-- An escape that the code does not have is copied. -/
theorem decode_append_foreign {rest : Text} (absent : escapeAt? code (escape ++ rest) = none) :
    decode code (escape ++ rest) = escape ++ decode code rest := by
  obtain ⟨behind, isCons, plainText⟩ := isEscape.eq_cons
  rw [isCons, List.cons_append] at absent ⊢
  rw [decode_cons absent, decode_append_copied escapes plainText, List.cons_append]

include notPut

omit escapes in
/-- A later pass does not find its escape where a character was put in. -/
theorem not_prefix_put {found rest : Text} (known : (found, plain) ∈ code) :
    ¬ escape <+: plain :: rest := by
  intro begins
  obtain ⟨behind, isCons, -⟩ := isEscape.eq_cons
  rw [isCons] at begins notPut
  obtain ⟨rfl, -⟩ := List.cons_prefix_cons.mp begins
  exact notPut _ known List.mem_cons_self

/-- A later pass finds its escape only where the text had it. -/
theorem not_prefix_copied {c : Char} {rest : Text} (absent : ¬ escape <+: c :: rest) :
    ¬ escape <+: c :: decode code rest := by
  intro begins
  obtain ⟨behind, isCons, -⟩ := isEscape.eq_cons
  rw [isCons] at begins absent notPut
  obtain ⟨rfl, later⟩ := List.cons_prefix_cons.mp begins
  refine absent (List.cons_prefix_cons.mpr ⟨rfl, prefix_of_prefix_decode escapes ?_ later⟩)
  exact fun entry known put => notPut entry known (List.mem_cons_of_mem _ put)

/-- One more pass undoes one more escape. -/
theorem replaceAll_decode (t : Text) :
    replaceAll escape [plain] (decode code t) = decode (code ++ [(escape, plain)]) t := by
  have all_escapes : ∀ entry ∈ code ++ [(escape, plain)], IsEscape entry.1 :=
    List.forall_mem_append.mpr ⟨escapes, List.forall_mem_singleton.mpr isEscape⟩
  induction t using decode_induction all_escapes with
  | nil => rfl
  | undo found put rest known at_start ih =>
    rw [decode_append (all_escapes _ known).ne_nil at_start, ← ih]
    rw [escapeAt?, List.find?_append, ← escapeAt?] at at_start
    cases earlier : escapeAt? code (found ++ rest) with
    | some entry =>
      rw [earlier, Option.some_or, Option.some_inj] at at_start
      subst at_start
      obtain ⟨inCode, -⟩ := prefix_of_escapeAt? earlier
      rw [decode_append (escapes _ inCode).ne_nil earlier,
        replaceAll_cons (not_prefix_put isEscape notPut inCode)]
    | none =>
      rw [earlier, Option.none_or] at at_start
      obtain ⟨this, -⟩ := prefix_of_escapeAt? at_start
      cases List.mem_singleton.mp this
      rw [decode_append_foreign escapes isEscape earlier, replaceAll_append isEscape.ne_nil,
        List.singleton_append]
  | copy c rest absent ih =>
    have absent_from := absent
    rw [escapeAt?_eq_none, List.forall_mem_append, List.forall_mem_singleton] at absent_from
    obtain ⟨no_earlier, not_this⟩ := absent_from
    rw [decode_cons absent, decode_cons (escapeAt?_eq_none.mpr no_earlier),
      replaceAll_cons (not_prefix_copied escapes isEscape notPut not_this), ih]

end pass

end decode

theorem decode_nil_code (t : Text) : decode [] t = t := by
  induction t with
  | nil => rfl
  | cons c rest ih => rw [decode_cons rfl, ih]

/-- The passes for the escapes of a code, one after the other, decode in one pass. -/
theorem foldl_replaceAll_eq_decode {code : List (Text × Char)}
    (escapes : ∀ entry ∈ code, IsEscape entry.1)
    (notPut : code.Pairwise fun earlier later => earlier.2 ∉ later.1) (t : Text) :
    code.foldl (fun t (escape, plain) => replaceAll escape [plain] t) t = decode code t := by
  induction code using List.reverseRecOn with
  | nil => exact (decode_nil_code t).symm
  | append_singleton code entry ih =>
    obtain ⟨escapes, isEscape⟩ := List.forall_mem_append.mp escapes
    obtain ⟨among, -, between⟩ := List.pairwise_append.mp notPut
    rw [List.foldl_append, ih escapes among]
    exact replaceAll_decode escapes (isEscape entry List.mem_cons_self)
      (fun earlier known => between earlier known entry List.mem_cons_self) t

end DiskPrep.Text
