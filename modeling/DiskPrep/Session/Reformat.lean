import DiskPrep.Outcome
import DiskPrep.Report.Mounts
import DiskPrep.Session.Discovery

/-!
Releasing every mount of a disk and destroying its partition table. Nothing is
wiped while a mount could not be released.
-/
namespace DiskPrep.Reformat

open Workflow

def wrongPath (path : Path) : Option HostError → Failure
  | none => .wrongPath path.text
  | some cause => .wrongPath (path.text ++ ": ".toList ++ cause.diagnostic)

def checkBlockDevice (path : Path) : Workflow (Except Failure Unit) := do
  match ← request (.nodeKind path) with
  | .ok .blockDevice => return .ok ()
  | .ok _ => return .error (wrongPath path none)
  | .error cause => return .error (wrongPath path (some cause))

/-- The disk to wipe. A requested path must be a block device, and a partition
stands for its disk; without a request it is the first whole disk of the report,
if there is one. -/
def target : Option Path → Workflow (Except Failure (Option Path))
  | none => do
    return .ok ((← Discovery.disks .all).head?.map BlockDevice.path)
  | some path => do
    match ← checkBlockDevice path with
    | .error failure => return .error failure
    | .ok () =>
      match parentDisk? path with
      | some disk => return .ok (some disk)
      | none => return .error (.notDisk path.text)

/-- Releases mount points one after the other, until one fails. A dry run only
tells of them. -/
def releaseAll (dryRun : Bool) : List Path → Workflow (Except Failure Unit)
  | [] => return .ok ()
  | point :: rest => do
    if dryRun then
      tell (.intended (.unmount point))
      releaseAll dryRun rest
    else
      match ← request (.unmount point) with
      | .ok () => releaseAll dryRun rest
      | .error cause =>
        tell (.unmountFailed point cause)
        return .error (.partitionMounted cause.diagnostic)

/-- Overwrites the boot sector. A wipe that fails is only told of. -/
def wipeSector (disk : Path) (dryRun : Bool) : Workflow (Except Failure Unit) := do
  if dryRun then
    tell (.intended (.wipe disk))
    return .ok ()
  else
    tell (.wiping disk)
    match ← request (.wipeBootSector disk) with
    | .ok () => return .ok ()
    | .error cause =>
      tell (.wipeFailed disk cause)
      return .ok ()

/-- Releases everything mounted from a disk, then overwrites its boot sector. -/
def wipe (disk : Path) (dryRun : Bool) : Workflow (Except Failure Unit) := do
  match ← request .readMounts with
  | .error cause => return .error (.partitioningFailed cause.diagnostic)
  | .ok table =>
    match ← releaseAll dryRun (MountEntry.pointsUnder (MountEntry.parseTable table) disk) with
    | .error failure => return .error failure
    | .ok () => wipeSector disk dryRun

/-- Finds the disk and wipes it. The value is the disk, if there was one. -/
def reformat (requested : Option Path) (dryRun : Bool) :
    Workflow (Except Failure (Option Path)) := do
  match ← target requested with
  | .error failure => return .error failure
  | .ok none =>
    tell .nothingToReformat
    return .ok none
  | .ok (some disk) =>
    match ← wipe disk dryRun with
    | .error failure => return .error failure
    | .ok () => return .ok (some disk)

end DiskPrep.Reformat
