import DiskPrep.Report.Mounts
import DiskPrep.Workflow

/-!
Carrying out the steps to a disk's planned layout. The first step that fails ends
the run; nothing is undone, and no later step is tried.
-/
namespace DiskPrep.Layout

open Workflow

structure Options where
  dryRun : Bool
  force : Bool
  delay : Delay
  deriving DecidableEq, Repr

/-- Releases mount points of a device, one after the other, until one fails. -/
def releaseAll (device : Path) : List Path → Workflow (Except HostError Unit)
  | [] => return .ok ()
  | point :: rest => do
    tell (.releasing device point)
    match ← request (.unmount point) with
    | .error cause => return .error cause
    | .ok () => releaseAll device rest

/-- Releases every mount of a device, the deepest first. -/
def releaseMounts (device : Path) : Workflow (Except HostError Unit) := do
  match ← request .readMounts with
  | .error cause => return .error cause
  | .ok table =>
    releaseAll device
      (MountEntry.deepestFirst (MountEntry.pointsOf (MountEntry.parseTable table) device))

def perform : Step → Workflow (Except HostError Unit)
  | .createSystemPartition disk bounds => do
    return (← request (.parted disk (Step.partitionScript true bounds))).map fun _ => ()
  | .createRawPartition disk bounds => do
    return (← request (.parted disk (Step.partitionScript false bounds))).map fun _ => ()
  | .settle delay => do
    request (.settle delay)
    return .ok ()
  | .releaseMounts device => releaseMounts device
  | .format device force => request (.formatExt4 device force)

/-- The steps in order, up to the first that fails. -/
def performAll : List Step → Workflow (Except StepFailure Unit)
  | [] => return .ok ()
  | step :: rest => do
    match ← perform step with
    | .ok () => performAll rest
    | .error cause =>
      let failure : StepFailure := ⟨step, cause⟩
      tell (.stepFailed failure)
      return .error failure

def tellAll : List Step → Workflow (Except StepFailure Unit)
  | [] => return .ok ()
  | step :: rest => do
    tell (.intended (.step step))
    tellAll rest

def execute (disk : Path) (plan : Plan) (options : Options) :
    Workflow (Except StepFailure Unit) := do
  tell (.partitioning disk plan)
  let steps := Step.forPlan disk plan options.force options.delay
  if options.dryRun then tellAll steps else performAll steps

end DiskPrep.Layout
