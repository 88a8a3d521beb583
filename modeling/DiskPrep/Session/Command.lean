import DiskPrep.CommandLine.Help
import DiskPrep.Session.Layout
import DiskPrep.Session.Reformat
import DiskPrep.Session.Survey
import DiskPrep.Settings

/-!
The commands: listing disks, listing partitions, partitioning one disk, and the
choice between them. A request to reformat is carried out before the command that
it comes with.
-/
namespace DiskPrep.Session

open Workflow

structure RunFlags where
  dryRun : Bool
  force : Bool
  /-- The disk has just been wiped, so what the kernel reports of it is stale. -/
  reformatted : Bool
  deriving DecidableEq, Repr

/-- The share of the system partition as a listing shows it; `0` for a disk whose
size is not known. -/
def systemShareText (settings : Settings) (geometry : Geometry) : Text :=
  if geometry.isUsable then sizeText (Plan.ofPercent geometry.total settings.systemPercent).system
  else ['0']

def diskLine (settings : Settings) (disk : Path) (geometry : Geometry) : Text :=
  disk.text ++ ':' :: decimal geometry.total ++ " GB:".toList ++
    systemShareText settings geometry ++ " GB".toList

/-- The lines of a listing, each after its disk has been looked at. -/
def diskLines (settings : Settings) (dryRun : Bool) : List BlockDevice → Workflow (List Text)
  | [] => return []
  | disk :: rest => do
    let geometry ← Survey.survey disk.path dryRun
    return diskLine settings disk.path geometry :: (← diskLines settings dryRun rest)

/-- Disks with their sizes: those without a partition, or by force all. -/
def listDisks (settings : Settings) (flags : RunFlags) : Workflow (List Text) := do
  let found ← Discovery.disks (if flags.force then .all else .unpartitioned)
  diskLines settings flags.dryRun found

def listPartitions : Workflow Text := do
  return PartitionInfo.listing (← Discovery.partitionsOfAll (← Discovery.disks .all))

def checkUnpartitioned (disk : Path) : Workflow (Except Failure Unit) := do
  match ← Discovery.partitions? disk with
  | .error cause =>
    return .error (.partitioningFailed
      ("unable to read partition table: ".toList ++ cause.diagnostic))
  | .ok [] => return .ok ()
  | .ok found => return .error (.wrongDisk (PartitionInfo.listing found))

/-- All checks that come before a change: the path is a block device, it is a
whole disk, and it has no partition unless it has just been wiped. -/
def validate (disk : Path) (flags : RunFlags) : Workflow (Except Failure Unit) := do
  match ← Reformat.checkBlockDevice disk with
  | .error failure => return .error failure
  | .ok () =>
    if isPartition disk then return .error (.notDisk disk.text)
    else if flags.reformatted then
      tell (.skippingPartitionCheck disk)
      return .ok ()
    else checkUnpartitioned disk

def partitionSized (settings : Settings) (disk : Path) (flags : RunFlags) (total : Nat) :
    Workflow (Except Failure Unit) := do
  let plan := Plan.ofPercent total settings.systemPercent
  match ← Layout.execute disk plan ⟨flags.dryRun, flags.force, settings.delay⟩ with
  | .error failure => return .error (.partitioningFailed failure.diagnostic)
  | .ok () =>
    tell (.partitioned disk plan)
    return .ok ()

/-- Checks a disk, finds its size and brings it into the planned layout. -/
def partitionDisk (settings : Settings) (disk : Path) (flags : RunFlags) :
    Workflow (Except Failure Unit) := do
  match ← validate disk flags with
  | .error failure => return .error failure
  | .ok () =>
    let geometry ← Survey.survey disk flags.dryRun
    if geometry.isUsable then partitionSized settings disk flags geometry.total
    else return .error (.partitioningFailed "unable to determine disk size".toList)

def asLine (t : Text) : Text := t ++ ['\n']

/-- Performs one command; the value is what is printed. -/
def perform (settings : Settings) (flags : RunFlags) :
    CommandLine.Command → Workflow (Except Failure Text)
  | .list => do return .ok ((← listDisks settings flags).flatMap asLine)
  | .partitions => do return .ok (asLine (← listPartitions))
  | .errno code => return .ok (asLine (Outcome.describe code))
  | .partition disk => do return (← partitionDisk settings disk flags).map fun _ => []
  | .help => return .ok CommandLine.shortHelp

/-- The flags of the command after a request to reformat has been carried out. A
reformat forces what follows. -/
def reformatFirst (request : CommandLine.Request) : Workflow (Except Failure RunFlags) := do
  let flags : RunFlags := ⟨request.dryRun, request.force, false⟩
  if request.reformat then
    match ← Reformat.reformat request.disk request.dryRun with
    | .error failure => return .error failure
    | .ok none => return .ok { flags with force := true }
    | .ok (some disk) =>
      tell (.reformatted disk)
      return .ok { flags with force := true, reformatted := true }
  else return .ok flags

def dispatch (settings : Settings) (request : CommandLine.Request) :
    Workflow (Except Failure Text) := do
  match ← reformatFirst request with
  | .error failure => return .error failure
  | .ok flags => perform settings flags request.selected

end DiskPrep.Session
