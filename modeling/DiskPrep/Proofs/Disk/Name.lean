import DiskPrep.Disk.Name
import Mathlib.Data.List.DropRight

/-!
What a name shows of a disk. The path of a whole disk always ends in a name
(`exists_baseName?`), so a report can be searched for its partitions, and never in a digit
(`stem_of_isWholeDisk`), so it is the disk that it belongs to. The name it ends in need not be
that of a whole disk: more may stand before it (`hasDiskName_iff`).
-/
namespace DiskPrep

/-- The disk's name followed by one or more digits. -/
def IsNumbered (disk name : Text) : Prop :=
  ∃ number, name = disk ++ number ∧ number ≠ [] ∧ ∀ c ∈ number, Numeral.isDigit c = true

theorem Text.dropPrefix?_eq_some {start t rest : Text} :
    Text.dropPrefix? start t = some rest ↔ t = start ++ rest := by
  unfold Text.dropPrefix?
  split
  next begins =>
    obtain ⟨more, rfl⟩ := List.isPrefixOf_iff_prefix.mp begins
    simp
  next other =>
    constructor
    · intro none_left
      cases none_left
    · rintro rfl
      exact absurd (List.isPrefixOf_iff_prefix.mpr (List.prefix_append start rest)) other

theorem isPartitionOf_iff {name disk : Text} :
    isPartitionOf name disk = true ↔ IsNumbered disk name := by
  unfold isPartitionOf IsNumbered
  cases cut : Text.dropPrefix? disk name with
  | none =>
    refine ⟨fun found => absurd found Bool.false_ne_true, ?_⟩
    rintro ⟨number, eq, -⟩
    rw [Text.dropPrefix?_eq_some.mpr eq] at cut
    cases cut
  | some rest =>
    obtain rfl := Text.dropPrefix?_eq_some.mp cut
    simp

instance (disk name : Text) : Decidable (IsNumbered disk name) :=
  decidable_of_iff _ isPartitionOf_iff

/-- A whole disk's text ends in `sd` and a letter. -/
theorem isWholeDisk_iff {disk : Path} :
    isWholeDisk disk = true ↔
      ∃ front letter, disk.text = front ++ ['s', 'd', letter] ∧ isDriveLetter letter = true := by
  unfold isWholeDisk
  constructor
  · intro whole
    split at whole
    next letter front reversed =>
      refine ⟨front.reverse, letter, ?_, whole⟩
      rw [← List.reverse_inj, reversed]
      simp
    next => cases whole
  · rintro ⟨front, letter, text, isLetter⟩
    rw [text]
    simpa using isLetter

theorem isDriveLetter_ne {c letter : Char} (isLetter : isDriveLetter letter = true)
    (other : isDriveLetter c = false) : c ≠ letter := by
  rintro rfl
  exact absurd isLetter (Bool.eq_false_iff.mp other)

namespace Path

variable {name : Text} (whole : '/' ∉ name) (long : 3 ≤ name.length)

include long in
theorem Component.ofPiece?_name (hereAllowed : Bool) :
    Component.ofPiece? hereAllowed name = some (.name name) := by
  obtain ⟨a, b, c, rest, rfl⟩ : ∃ a b c rest, name = a :: b :: c :: rest := by
    match name, long with
    | a :: b :: c :: rest, _ => exact ⟨a, b, c, rest, rfl⟩
  simp [Component.ofPiece?]

include whole in
theorem splitOn_slash_name : name.splitOn '/' = [name] := by
  rw [List.splitOn_eq_splitOnP]
  refine List.splitOnP_eq_singleton ?_
  intro c member
  refine beq_eq_false_iff_ne.mpr ?_
  rintro rfl
  exact whole member

include whole long in
/-- A long name alone is the last component. -/
theorem baseName?_name : baseName? ⟨name⟩ = some name := by
  have relative : name.head? ≠ some '/' := fun first => whole (List.mem_of_head? first)
  simp [baseName?, components, splitOn_slash_name whole, relative,
    Component.ofPiece?_name long true]

include whole long in
/-- Behind a slash a long name is the last component. -/
theorem baseName?_directory (directory : Text) :
    baseName? ⟨directory ++ '/' :: name⟩ = some name := by
  obtain ⟨first, more, pieces⟩ := List.exists_cons_of_ne_nil (List.splitOn_ne_nil '/' directory)
  have all_pieces : (directory ++ '/' :: name).splitOn '/' = first :: (more ++ [name]) := by
    rw [List.splitOn_eq_splitOnP, List.splitOnP_append_cons _ _ (by decide),
      ← List.splitOn_eq_splitOnP, ← List.splitOn_eq_splitOnP, pieces, splitOn_slash_name whole,
      List.cons_append]
  have last : (components ⟨directory ++ '/' :: name⟩).getLast? = some (.name name) := by
    simp only [components, all_pieces, List.filterMap_append, List.filterMap_cons,
      List.filterMap_nil, Component.ofPiece?_name long]
    split
    · rw [← List.cons_append, List.getLast?_concat]
    · rw [← List.append_assoc, List.getLast?_concat]
  rw [baseName?, last]

end Path

/-- What stands behind the last slash of a text, or all of it when it has none. -/
theorem exists_behind_slash (front : Text) :
    ∃ start, '/' ∉ start ∧ (front = start ∨ ∃ directory, front = directory ++ '/' :: start) := by
  by_cases slash : '/' ∈ front
  · obtain ⟨after, before, reversed, absent⟩ :=
      List.eq_append_cons_of_mem (List.mem_reverse.mpr slash)
    have front_eq : front = before.reverse ++ '/' :: after.reverse := by
      rw [← List.reverse_inj, reversed]
      simp
    exact ⟨after.reverse, by simpa using absent, Or.inr ⟨before.reverse, front_eq⟩⟩
  · exact ⟨front, slash, Or.inl rfl⟩

/-- The last component of a path that ends in a long name is all that stands behind the last
slash. -/
theorem baseName?_append {front start name : Text} (absent : '/' ∉ start)
    (place : front = start ∨ ∃ directory, front = directory ++ '/' :: start)
    (whole : '/' ∉ name) (long : 3 ≤ name.length) :
    Path.baseName? ⟨front ++ name⟩ = some (start ++ name) := by
  have no_slash : '/' ∉ start ++ name := by simp [absent, whole]
  have still_long : 3 ≤ (start ++ name).length := by
    rw [List.length_append]
    omega
  rcases place with rfl | ⟨directory, rfl⟩
  · exact Path.baseName?_name no_slash still_long
  · rw [List.append_assoc, List.cons_append]
    exact Path.baseName?_directory no_slash still_long directory

theorem slash_not_mem_diskName {letter : Char} (isLetter : isDriveLetter letter = true) :
    '/' ∉ ['s', 'd', letter] := by
  simp [isDriveLetter_ne isLetter (c := '/') (by decide)]

/-- The last component of a whole disk's path is all that stands behind the last slash. -/
theorem baseName?_wholeDisk (front : Text) {letter : Char} (isLetter : isDriveLetter letter = true) :
    ∃ start, Path.baseName? ⟨front ++ ['s', 'd', letter]⟩ = some (start ++ ['s', 'd', letter]) ∧
      '/' ∉ start ∧ (front = start ∨ ∃ directory, front = directory ++ '/' :: start) := by
  obtain ⟨start, absent, place⟩ := exists_behind_slash front
  exact ⟨start, baseName?_append absent place (slash_not_mem_diskName isLetter) (Nat.le_refl 3),
    absent, place⟩

/-- The path of a whole disk ends in a name. -/
theorem exists_baseName? {disk : Path} (whole : isWholeDisk disk = true) :
    ∃ name, disk.baseName? = some name := by
  obtain ⟨text⟩ := disk
  obtain ⟨front, letter, rfl, isLetter⟩ := isWholeDisk_iff.mp whole
  obtain ⟨start, base, -⟩ := baseName?_wholeDisk front isLetter
  exact ⟨_, base⟩

/-- The last component of the path is the name of a whole disk. -/
def Path.HasDiskName (path : Path) : Prop :=
  ∃ name, path.baseName? = some name ∧ isWholeDiskName name = true

/-- Nothing but a slash stands before the last three characters of the path. -/
def Path.StandsAlone (path : Path) : Prop :=
  ∀ c, path.text.reverse[3]? = some c → c = '/'

theorem isWholeDiskName_iff {name : Text} :
    isWholeDiskName name = true ↔
      ∃ letter, name = ['s', 'd', letter] ∧ isDriveLetter letter = true := by
  unfold isWholeDiskName
  constructor
  · intro named
    split at named
    next letter => exact ⟨letter, rfl, named⟩
    next => cases named
  · rintro ⟨letter, rfl, isLetter⟩
    exact isLetter

/-- A whole disk's text has a whole disk's name as its last component unless something other
than a slash stands before it. -/
theorem hasDiskName_iff {disk : Path} (whole : isWholeDisk disk = true) :
    disk.HasDiskName ↔ disk.StandsAlone := by
  obtain ⟨text⟩ := disk
  obtain ⟨front, letter, rfl, isLetter⟩ := isWholeDisk_iff.mp whole
  obtain ⟨start, base, absent, place⟩ := baseName?_wholeDisk front isLetter
  have named : Path.HasDiskName ⟨front ++ ['s', 'd', letter]⟩ ↔ start = [] := by
    constructor
    · rintro ⟨name, isBase, isName⟩
      rw [base, Option.some.injEq] at isBase
      obtain ⟨other, name_eq, -⟩ := isWholeDiskName_iff.mp isName
      have lengths := congrArg List.length (isBase.trans name_eq)
      exact List.length_eq_zero_iff.mp (by simpa using lengths)
    · rintro rfl
      exact ⟨_, base, isWholeDiskName_iff.mpr ⟨letter, rfl, isLetter⟩⟩
  have before : Path.StandsAlone ⟨front ++ ['s', 'd', letter]⟩ ↔
      ∀ c, front.getLast? = some c → c = '/' := by
    simp [Path.StandsAlone, List.getLast?_eq_head?_reverse, List.head?_eq_getElem?]
  rw [named, before]
  constructor
  · rintro rfl c last
    rcases place with rfl | ⟨directory, rfl⟩
    · cases last
    · simpa using last.symm
  · intro slash
    by_contra nonempty
    have kept : front.getLast? = some (start.getLast nonempty) := by
      rcases place with rfl | ⟨directory, rfl⟩
      · exact List.getLast?_eq_some_getLast nonempty
      · rw [List.getLast?_append, List.getLast?_cons, List.getLast?_eq_some_getLast nonempty]
        rfl
    have last := slash _ kept
    exact absent (last ▸ List.getLast_mem nonempty)

/-- The node of a disk that the report names is a whole disk, and has the disk's name. -/
theorem isWholeDisk_ofDeviceName {name : Text} (named : isWholeDiskName name = true) :
    isWholeDisk (Path.ofDeviceName name) = true ∧ (Path.ofDeviceName name).HasDiskName := by
  obtain ⟨letter, rfl, isLetter⟩ := isWholeDiskName_iff.mp named
  have no_slash : '/' ∉ ['s', 'd', letter] := slash_not_mem_diskName isLetter
  have node : Path.ofDeviceName ['s', 'd', letter] = ⟨"/dev".toList ++ '/' :: ['s', 'd', letter]⟩ :=
    rfl
  refine ⟨isWholeDisk_iff.mpr ⟨"/dev/".toList, letter, rfl, isLetter⟩, ?_⟩
  rw [node]
  exact ⟨_, Path.baseName?_directory no_slash (by simp) _, named⟩

/-- The path without the digits at its end. -/
def Path.stem (path : Path) : Path := ⟨Text.dropEndWhile Numeral.isDigit path.text⟩

theorem parentDisk?_eq (path : Path) :
    parentDisk? path = if isWholeDisk path.stem then some path.stem else none :=
  rfl

theorem Path.stem_prefix (path : Path) : path.stem.text <+: path.text :=
  List.rdropWhile_prefix _ _

/-- The path does not end in a digit. -/
def Path.Unnumbered (path : Path) : Prop :=
  ∀ c, path.text.getLast? = some c → Numeral.isDigit c = false

/-- The disk's text is that of the path, less all the digits at its end. -/
def Path.IsStem (disk path : Path) : Prop :=
  disk.Unnumbered ∧ ∃ number, path.text = disk.text ++ number ∧
    ∀ c ∈ number, Numeral.isDigit c = true

theorem Path.stem_isStem (path : Path) : path.stem.IsStem path := by
  obtain ⟨text⟩ := path
  refine ⟨?_, (text.reverse.takeWhile Numeral.isDigit).reverse, ?_, ?_⟩
  · intro c last
    have nonempty : List.rdropWhile Numeral.isDigit text ≠ [] := by
      intro empty
      rw [Path.stem, Text.dropEndWhile, ← List.rdropWhile, empty] at last
      cases last
    have kept : (List.rdropWhile Numeral.isDigit text).getLast? = some c := last
    rw [List.getLast?_eq_some_getLast nonempty] at kept
    rw [← Option.some.inj kept]
    exact Bool.eq_false_iff.mpr (List.rdropWhile_last_not _ _ nonempty)
  · rw [← List.reverse_inj, List.reverse_append, List.reverse_reverse, Path.stem,
      Text.dropEndWhile, List.reverse_reverse, List.takeWhile_append_dropWhile]
  · intro c member
    exact List.mem_takeWhile_imp (List.mem_reverse.mp member)

theorem Path.IsStem.eq_of_unnumbered {disk path : Path} (isStem : disk.IsStem path)
    (unnumbered : path.Unnumbered) : disk = path := by
  obtain ⟨-, number, text, digits⟩ := isStem
  obtain rfl : number = [] := by
    by_contra nonempty
    have last : path.text.getLast? = some (number.getLast nonempty) := by
      rw [text, List.getLast?_append, List.getLast?_eq_some_getLast nonempty]
      rfl
    have isDigit := digits _ (List.getLast_mem nonempty)
    rw [unnumbered _ last] at isDigit
    cases isDigit
  rw [List.append_nil] at text
  cases disk
  cases path
  cases text
  rfl

/-- The path of a whole disk does not end in a digit. -/
theorem stem_of_isWholeDisk {disk : Path} (whole : isWholeDisk disk = true) : disk.stem = disk := by
  obtain ⟨text⟩ := disk
  obtain ⟨front, letter, rfl, isLetter⟩ := isWholeDisk_iff.mp whole
  have no_digit : ¬ Numeral.isDigit letter = true := by
    intro isDigit
    simp only [isDriveLetter, Numeral.isDigit, Bool.and_eq_true, decide_eq_true_eq] at *
    exact absurd (Char.le_trans isLetter.1 isDigit.2) (by decide)
  have kept : Text.dropEndWhile Numeral.isDigit (front ++ ['s', 'd', letter]) =
      front ++ ['s', 'd', letter] := by
    rw [List.append_cons, List.append_cons]
    exact List.rdropWhile_concat_neg _ _ _ no_digit
  rw [Path.stem, kept]

theorem unnumbered_of_isWholeDisk {disk : Path} (whole : isWholeDisk disk = true) :
    disk.Unnumbered := by
  rw [← stem_of_isWholeDisk whole]
  exact disk.stem_isStem.1

end DiskPrep
