import DiskPrep.Disk.Name
import DiskPrep.Number.Decimal
import DiskPrep.Report.Partitions

/-!
The whole disks and the partitions that a report of block devices names.
-/
namespace DiskPrep

structure BlockDevice where
  path : Path
  deriving DecidableEq, Repr

def BlockDevice.isWhole (device : BlockDevice) : Bool := isWholeDisk device.path

/-- A partition and its size in decimal gigabytes. -/
structure PartitionInfo where
  path : Path
  size : Binary
  deriving DecidableEq, Repr

/-- The partition as listings show it, its size with one place. -/
def PartitionInfo.text (part : PartitionInfo) : Text :=
  part.path.text ++ " (".toList ++ part.size.onePlaceText ++ " GB)".toList

/-- Partitions on one line, colons between them. -/
def PartitionInfo.listing (parts : List PartitionInfo) : Text :=
  Text.joined [':'] (parts.map PartitionInfo.text)

inductive Selection where
  /-- Those without a partition. -/
  | unpartitioned
  /-- Every one. -/
  | all
  deriving DecidableEq, Repr

namespace Inventory

/-- Blocks of 1024 bytes are shown as a millionth of a gigabyte each. -/
def blocksPerGigabyte : Nat := 1000000

def sizeOfBlocks (blocks : Nat) : Binary :=
  Binary.div binary64 (binary64.ofNat blocks) (binary64.ofNat blocksPerGigabyte)

def hasPartition (rows : List DeviceRow) (disk : Text) : Bool :=
  rows.any fun row => isPartitionOf row.name disk

def admits (rows : List DeviceRow) (disk : Text) : Selection → Bool
  | .all => true
  | .unpartitioned => !hasPartition rows disk

/-- The selected whole disks, in the order of the report. -/
def disks (rows : List DeviceRow) (selection : Selection) : List BlockDevice :=
  (rows.filter fun row => isWholeDiskName row.name && admits rows row.name selection).map
    fun row => ⟨Path.ofDeviceName row.name⟩

/-- The partitions of a disk, in the order of the report; a path that ends in no
name has none. -/
def partitions (rows : List DeviceRow) (disk : Path) : List PartitionInfo :=
  match disk.baseName? with
  | none => []
  | some name =>
    (rows.filter fun row => isPartitionOf row.name name).map
      fun row => ⟨Path.ofDeviceName row.name, sizeOfBlocks row.blocks⟩

end Inventory

end DiskPrep
