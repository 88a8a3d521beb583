import DiskPrep.Proofs.Disk.Name
import DiskPrep.Proofs.Text.Numeral
import DiskPrep.Proofs.Text.Trim

/-!
How the names of a disk and of its partitions fit together. The path of a whole disk does not end
in a digit, so whatever digits are put behind it are what its parent is found by taking off
(`parentDisk?_eq_some_iff`), and the name that it ends in grows by the same digits
(`baseName?_partitionPath`). A name belongs to one disk only, since all names of disks are equally
long.
-/
namespace DiskPrep

/-- The parent of a path is the whole disk that it is less the digits at its end. -/
theorem parentDisk?_eq_some_iff {path disk : Path} :
    parentDisk? path = some disk ↔
      isWholeDisk disk = true ∧
        ∃ digits, path.text = disk.text ++ digits ∧ ∀ c ∈ digits, Numeral.isDigit c = true := by
  rw [parentDisk?_eq]
  constructor
  · intro found
    split at found
    next whole =>
      cases found
      obtain ⟨-, digits, text, allDigits⟩ := path.stem_isStem
      exact ⟨whole, digits, text, allDigits⟩
    next => cases found
  · rintro ⟨whole, digits, text, allDigits⟩
    have stem : path.stem = disk := by
      rw [← stem_of_isWholeDisk whole, Path.stem, Path.stem, text,
        Text.dropEndWhile_append disk.text allDigits]
    rw [stem, if_pos whole]

theorem parentDisk?_partitionPath {disk : Path} (whole : isWholeDisk disk = true) (number : Nat) :
    parentDisk? (partitionPath disk number) = some disk :=
  parentDisk?_eq_some_iff.mpr ⟨whole, decimal number, rfl, fun _ => Numeral.isDigit_of_mem_decimal⟩

theorem parentDisk?_self {disk : Path} (whole : isWholeDisk disk = true) :
    parentDisk? disk = some disk :=
  parentDisk?_eq_some_iff.mpr ⟨whole, [], (List.append_nil _).symm, by simp⟩

/-- A path with a number behind it is not that of a whole disk. -/
theorem isPartition_partitionPath {disk : Path} (whole : isWholeDisk disk = true) (number : Nat) :
    isPartition (partitionPath disk number) = true := by
  rw [isPartition, Bool.not_eq_true', ← Bool.not_eq_true]
  intro alsoWhole
  have same : some (partitionPath disk number) = some disk :=
    (parentDisk?_self alsoWhole).symm.trans (parentDisk?_partitionPath whole number)
  have texts : disk.text ++ decimal number = disk.text := congrArg Path.text (Option.some.inj same)
  exact absurd (List.append_right_eq_self.mp texts) Nat.toDigits_ne_nil

/-- The last component of a partition's path is that of its disk with the number behind it. -/
theorem baseName?_partitionPath {disk : Path} (whole : isWholeDisk disk = true) (number : Nat) :
    ∃ name, disk.baseName? = some name ∧
      (partitionPath disk number).baseName? = some (name ++ decimal number) := by
  obtain ⟨text⟩ := disk
  obtain ⟨front, letter, rfl, isLetter⟩ := isWholeDisk_iff.mp whole
  obtain ⟨start, absent, place⟩ := exists_behind_slash front
  have no_slash : '/' ∉ ['s', 'd', letter] ++ decimal number := by
    intro slash
    rcases List.mem_append.mp slash with named | numbered
    · exact slash_not_mem_diskName isLetter named
    · exact absurd (Numeral.isDigit_of_mem_decimal numbered) (by decide)
  refine ⟨start ++ ['s', 'd', letter],
    baseName?_append absent place (slash_not_mem_diskName isLetter) (Nat.le_refl 3), ?_⟩
  rw [partitionPath, List.append_assoc, List.append_assoc]
  refine baseName?_append absent place no_slash ?_
  simp

/-- Names of disks are of one length, so a name has at most one of them before its number. -/
theorem eq_of_isNumbered {name disk other : Text} (named : isWholeDiskName disk = true)
    (named' : isWholeDiskName other = true) (numbered : IsNumbered disk name)
    (numbered' : IsNumbered other name) : disk = other := by
  obtain ⟨letter, rfl, -⟩ := isWholeDiskName_iff.mp named
  obtain ⟨letter', rfl, -⟩ := isWholeDiskName_iff.mp named'
  obtain ⟨number, eq, -⟩ := numbered
  obtain ⟨number', eq', -⟩ := numbered'
  exact List.append_inj_left (eq.symm.trans eq') rfl

/-- Disks and partitions form families. The numbered path of a whole disk is a partition, its
parent is the disk as it was written, and its name is one of the disk's partitions; the disk is
its own parent. A path has a parent exactly when it is a whole disk followed by digits or by
nothing, and that disk is the parent. No name is a partition of two disks. -/
theorem disks_form_families :
    (∀ disk, isWholeDisk disk = true → ∀ number,
      isPartition (partitionPath disk number) = true ∧
      parentDisk? (partitionPath disk number) = some disk ∧
      parentDisk? disk = some disk ∧
      ∃ diskName partName, disk.baseName? = some diskName ∧
        (partitionPath disk number).baseName? = some partName ∧
        isPartitionOf partName diskName = true) ∧
    (∀ path disk, parentDisk? path = some disk ↔
      isWholeDisk disk = true ∧
        ∃ digits, path.text = disk.text ++ digits ∧ ∀ c ∈ digits, '0' ≤ c ∧ c ≤ '9') ∧
    ∀ name disk other, isWholeDiskName disk = true → isWholeDiskName other = true →
      isPartitionOf name disk = true → isPartitionOf name other = true → disk = other := by
  refine ⟨?_, ?_, ?_⟩
  · intro disk whole number
    obtain ⟨name, base, partBase⟩ := baseName?_partitionPath whole number
    have numbered : IsNumbered name (name ++ decimal number) :=
      ⟨decimal number, rfl, Nat.toDigits_ne_nil, fun _ => Numeral.isDigit_of_mem_decimal⟩
    exact ⟨isPartition_partitionPath whole number, parentDisk?_partitionPath whole number,
      parentDisk?_self whole, name, _, base, partBase, isPartitionOf_iff.mpr numbered⟩
  · intro path disk
    simp only [parentDisk?_eq_some_iff, Numeral.isDigit, Bool.and_eq_true, decide_eq_true_eq]
  · intro name disk other named named' part part'
    exact eq_of_isNumbered named named' (isPartitionOf_iff.mp part) (isPartitionOf_iff.mp part')

/-- A relative path with another digit in it, a doubled slash and a letter beyond ASCII. -/
theorem relative_disk_in_family :
    let disk : Path := ⟨"4/é//xsdb".toList⟩
    isWholeDisk disk = true ∧
      parentDisk? ⟨"4/é//xsdb12".toList⟩ = some disk ∧
      isWholeDiskName "sdb".toList = true ∧ isPartitionOf "sdb12".toList "sdb".toList = true ∧
      ∀ other, isWholeDiskName other = true → isPartitionOf "sdb12".toList other = true →
        other = "sdb".toList := by
  intro disk
  have whole : isWholeDisk disk = true := by decide
  have named : isWholeDiskName "sdb".toList = true := by decide
  have part : isPartitionOf "sdb12".toList "sdb".toList = true := by decide
  obtain ⟨of_disk, -, of_name⟩ := disks_form_families
  obtain ⟨-, parent, -⟩ := of_disk disk whole 12
  refine ⟨whole, parent, named, part, ?_⟩
  intro other named' part'
  exact of_name _ other _ named' named part' part

end DiskPrep
