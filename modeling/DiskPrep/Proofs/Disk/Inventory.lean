import DiskPrep.Disk.Inventory
import DiskPrep.Proofs.Disk.Name
import DiskPrep.Proofs.Text.Words
import Mathlib.Data.List.Flatten

/-!
What rows of a report say of disks and partitions. The inventory is stated here by the names of
the rows alone (`wholeDisks`, `partitionsOf`); the one that the library computes is this one
(`disks_all`, `disks_unpartitioned`, `partitions_eq`). A disk is found by its row and looked up
by its path: both lead to one name (`baseName?_node`), so both agree on whether it has a
partition.
-/
namespace DiskPrep

namespace DeviceRow

/-- The row's name is that of a whole disk: `sd` and one lower-case letter. -/
def IsDisk (row : DeviceRow) : Prop :=
  ∃ letter, row.name = ['s', 'd', letter] ∧ 'a' ≤ letter ∧ letter ≤ 'z'

def node (row : DeviceRow) : Path := ⟨"/dev/".toList ++ row.name⟩

def asPartition (row : DeviceRow) : PartitionInfo := ⟨row.node, Inventory.sizeOfBlocks row.blocks⟩

theorem isDisk_iff {row : DeviceRow} : row.IsDisk ↔ isWholeDiskName row.name = true := by
  simp [IsDisk, isWholeDiskName_iff, isDriveLetter]

instance (row : DeviceRow) : Decidable row.IsDisk := decidable_of_iff _ isDisk_iff.symm

def wholeDisks (rows : List DeviceRow) : List DeviceRow := rows.filter fun row => row.IsDisk

def partitionsOf (rows : List DeviceRow) (disk : Text) : List DeviceRow :=
  rows.filter fun row => IsNumbered disk row.name

end DeviceRow

namespace PartitionInfo

theorem text_ne_nil (part : PartitionInfo) : part.text ≠ [] := by
  simp [text]

/-- A listing is empty only when it lists nothing. -/
theorem listing_eq_nil_iff {parts : List PartitionInfo} : listing parts = [] ↔ parts = [] := by
  cases parts with
  | nil => exact iff_of_true rfl rfl
  | cons first rest =>
    refine iff_of_false ?_ (List.cons_ne_nil first rest)
    cases rest with
    | nil => simp [listing, Text.joined, text_ne_nil]
    | cons second more => simp [listing, Text.joined, List.intercalate_cons_cons, text_ne_nil]

theorem listing_ended (first : PartitionInfo) (rest : List PartitionInfo) :
    listing (first :: rest) ++ [':'] =
      (first :: rest).flatMap fun part => part.text ++ [':'] := by
  induction rest generalizing first with
  | nil => simp [listing, Text.joined]
  | cons second more ih =>
    rw [List.flatMap_cons, ← ih second]
    simp [listing, Text.joined, List.intercalate_cons_cons]

/-- A listing that lacks a partition is shorter. -/
theorem eq_of_listing_eq {kept parts : List PartitionInfo} (sub : kept.Sublist parts)
    (same : listing kept = listing parts) : kept = parts := by
  have of_ended : (kept.flatMap fun part => part.text ++ [':']) =
      (parts.flatMap fun part => part.text ++ [':']) → kept = parts := by
    clear same
    intro ended
    induction sub with
    | slnil => rfl
    | cons part sub ih =>
      have shorter := (sub.flatMap fun part => part.text ++ [':']).length_le
      have lengths := congrArg List.length ended
      simp only [List.flatMap_cons, List.length_append, List.length_singleton] at lengths
      omega
    | cons_cons part sub ih =>
      rw [List.flatMap_cons, List.flatMap_cons, List.append_cancel_left_eq] at ended
      rw [ih ended]
  cases kept with
  | nil => exact (listing_eq_nil_iff.mp same.symm).symm
  | cons first rest =>
    cases parts with
    | nil => exact absurd (listing_eq_nil_iff.mp same) (List.cons_ne_nil first rest)
    | cons head tail =>
      refine of_ended ?_
      rw [← listing_ended, ← listing_ended, same]

end PartitionInfo

open DeviceRow

namespace Path

theorem Component.eq_of_ofPiece? {hereAllowed : Bool} {piece name : Text}
    (read : Component.ofPiece? hereAllowed piece = some (.name name)) :
    piece = name ∧ name ≠ [] := by
  unfold Component.ofPiece? at read
  split at read
  · cases read
  next nonempty =>
    split at read
    · split at read <;> cases read
    · split at read
      · cases read
      · cases read
        exact ⟨rfl, by simpa using nonempty⟩

/-- A name among the components is a piece between slashes. -/
theorem mem_splitOn_of_mem_components {p : Path} {name : Text}
    (member : .name name ∈ p.components) : name ≠ [] ∧ name ∈ p.text.splitOn '/' := by
  unfold components at member
  split at member
  · exact absurd member List.not_mem_nil
  next first rest pieces =>
    rw [pieces]
    have later : .name name ∈ rest.filterMap (Component.ofPiece? false) →
        name ≠ [] ∧ name ∈ first :: rest := by
      intro behind
      obtain ⟨piece, cut, read⟩ := List.mem_filterMap.mp behind
      obtain ⟨rfl, nonempty⟩ := Component.eq_of_ofPiece? read
      exact ⟨nonempty, List.mem_cons_of_mem first cut⟩
    dsimp only at member
    split at member
    · rcases List.mem_cons.mp member with same | behind
      · cases same
      · exact later behind
    · rcases List.mem_append.mp member with here | behind
      · obtain ⟨rfl, nonempty⟩ := Component.eq_of_ofPiece? (Option.mem_toList.mp here)
        exact ⟨nonempty, List.mem_cons_self⟩
      · exact later behind

theorem name_of_baseName? {p : Path} {name : Text} (base : p.baseName? = some name) :
    name ≠ [] ∧ '/' ∉ name := by
  unfold baseName? at base
  split at base
  next text last =>
    cases base
    obtain ⟨nonempty, cut⟩ := mem_splitOn_of_mem_components (List.mem_of_getLast? last)
    exact ⟨nonempty, Text.not_mem_of_mem_splitOn cut⟩
  · cases base

/-- The node of a name that is no absolute path. -/
theorem ofDeviceName_eq {name : Text} (relative : name.head? ≠ some '/') :
    ofDeviceName name = ⟨"/dev/".toList ++ name⟩ := by
  simp [ofDeviceName, join, relative]

end Path

namespace DeviceRow

variable {row : DeviceRow} {rows : List DeviceRow}

theorem IsDisk.relative (disk : row.IsDisk) : row.name.head? ≠ some '/' := by
  obtain ⟨letter, name, -⟩ := disk
  simp [name]

/-- The node of a disk has the disk's name as its last component. -/
theorem IsDisk.baseName?_node (disk : row.IsDisk) : row.node.baseName? = some row.name := by
  obtain ⟨letter, name, low, high⟩ := disk
  have isLetter : isDriveLetter letter = true := by simp [isDriveLetter, low, high]
  rw [node, name]
  exact Path.baseName?_directory (slash_not_mem_diskName isLetter) (by simp) "/dev".toList

theorem of_mem_wholeDisks (member : row ∈ wholeDisks rows) : row.IsDisk :=
  of_decide_eq_true (List.mem_filter.mp member).2

theorem partitionsOf_eq_nil_iff {disk : Text} :
    partitionsOf rows disk = [] ↔ ∀ row ∈ rows, ¬ IsNumbered disk row.name := by
  simp [partitionsOf, List.filter_eq_nil_iff]

end DeviceRow

namespace Inventory

variable {rows : List DeviceRow}

theorem isPartitionOf_eq (name disk : Text) :
    isPartitionOf name disk = decide (IsNumbered disk name) := by
  rw [Bool.eq_iff_iff, decide_eq_true_iff, isPartitionOf_iff]

theorem isWholeDiskName_eq (row : DeviceRow) : isWholeDiskName row.name = decide row.IsDisk := by
  rw [Bool.eq_iff_iff, decide_eq_true_iff, isDisk_iff]

theorem hasPartition_eq (disk : Text) :
    hasPartition rows disk = decide (partitionsOf rows disk ≠ []) := by
  rw [Bool.eq_iff_iff, decide_eq_true_iff, ne_eq, partitionsOf_eq_nil_iff]
  simp [hasPartition, isPartitionOf_iff]

/-- The disks of a selection are those of the rows that it admits. -/
theorem disks_eq (selection : Selection) :
    disks rows selection =
      ((wholeDisks rows).filter fun disk => admits rows disk.name selection).map
        fun row => ⟨row.node⟩ := by
  have same_rows : (rows.filter fun row =>
        isWholeDiskName row.name && admits rows row.name selection) =
      (wholeDisks rows).filter fun disk => admits rows disk.name selection := by
    rw [wholeDisks, List.filter_filter]
    refine List.filter_congr ?_
    intro row member
    rw [isWholeDiskName_eq, Bool.and_comm]
  rw [disks, same_rows]
  refine List.map_congr_left ?_
  intro row member
  have named : row.IsDisk := of_mem_wholeDisks (List.mem_filter.mp member).1
  rw [Path.ofDeviceName_eq named.relative, node]

theorem disks_all : disks rows .all = (wholeDisks rows).map fun row => ⟨row.node⟩ := by
  rw [disks_eq]
  simp only [admits, List.filter_true]

theorem disks_unpartitioned :
    disks rows .unpartitioned =
      ((wholeDisks rows).filter fun disk => partitionsOf rows disk.name = []).map
        fun row => ⟨row.node⟩ := by
  rw [disks_eq]
  simp only [admits, hasPartition_eq, ne_eq, decide_not, Bool.not_not]

theorem partitions_eq {disk : Path} {name : Text} (base : disk.baseName? = some name) :
    partitions rows disk = (partitionsOf rows name).map asPartition := by
  simp only [partitions, base, isPartitionOf_eq, partitionsOf]
  refine List.map_congr_left ?_
  intro row member
  obtain ⟨number, eq, -⟩ := of_decide_eq_true (List.mem_filter.mp member).2
  obtain ⟨nonempty, whole⟩ := Path.name_of_baseName? base
  -- The row's name begins as the disk's does, so it is no absolute path.
  have relative : row.name.head? ≠ some '/' := by
    rw [eq, List.head?_append_of_ne_nil _ nonempty]
    exact fun first => whole (List.mem_of_head? first)
  rw [Path.ofDeviceName_eq relative, asPartition, node]

/-- The partitions of a disk that the report names. -/
theorem partitions_node {disk : DeviceRow} (named : disk.IsDisk) :
    partitions rows disk.node = (partitionsOf rows disk.name).map asPartition :=
  partitions_eq named.baseName?_node

end Inventory

end DiskPrep
