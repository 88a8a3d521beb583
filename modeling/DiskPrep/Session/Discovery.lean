import DiskPrep.Disk.Inventory
import DiskPrep.Workflow

/-!
Finding disks and partitions on a host. The answer is complete or empty: a report
that cannot be read, or of which one row does not fit, gives nothing, because a
partial list could lead to work on the wrong device.
-/
namespace DiskPrep.Discovery

open Workflow

/-- The rows of a report, when the host gave it and every row fits. -/
def rowsOf (report : Except HostError Text) : Except HostError (List DeviceRow) := do
  let text ← report
  match DeviceRow.parseReport text with
  | .ok rows => .ok rows
  | .error fault => .error (.malformed fault.message)

def readRows : Workflow (Except HostError (List DeviceRow)) := do
  return rowsOf (← request .readPartitions)

def disks? (selection : Selection) : Workflow (Except HostError (List BlockDevice)) := do
  return (← readRows).map fun rows => Inventory.disks rows selection

def partitions? (disk : Path) : Workflow (Except HostError (List PartitionInfo)) := do
  return (← readRows).map fun rows => Inventory.partitions rows disk

/-- The selected disks; none when the report is of no use. -/
def disks (selection : Selection) : Workflow (List BlockDevice) := do
  match ← disks? selection with
  | .ok found => return found
  | .error cause =>
    tell (.disksUnknown cause)
    return []

/-- The partitions of a disk; none when the report is of no use. -/
def partitions (disk : Path) : Workflow (List PartitionInfo) := do
  match ← partitions? disk with
  | .ok found => return found
  | .error cause =>
    tell (.partitionsUnknown disk cause)
    return []

/-- The partitions of several disks, disk by disk. The report is read anew for
each. -/
def partitionsOfAll : List BlockDevice → Workflow (List PartitionInfo)
  | [] => return []
  | disk :: rest => do
    let found ← partitions disk.path
    return found ++ (← partitionsOfAll rest)

end DiskPrep.Discovery
