import DiskPrep.Delay
import DiskPrep.Disk.Name
import DiskPrep.Disk.Plan
import DiskPrep.Host.Error
import DiskPrep.Parted
import DiskPrep.Report.Summary

/-!
The steps that bring a disk into its planned layout, as data: each can be shown,
which is all that a dry run does with it, or carried out.
-/
namespace DiskPrep

inductive Step where
  /-- A fresh label and the system partition, in one run of the tool. -/
  | createSystemPartition (disk : Path) (bounds : Bounds)
  /-- The raw partition behind the system partition. -/
  | createRawPartition (disk : Path) (bounds : Bounds)
  /-- A pause in which the kernel makes the new device nodes. -/
  | settle (delay : Delay)
  /-- Every mount of the device is released, the deepest first. -/
  | releaseMounts (device : Path)
  /-- A file system is made on the device. -/
  | format (device : Path) (force : Bool)
  deriving DecidableEq, Repr

namespace Step

def partitionKind : Text := "primary".toList

/-- The run of the tool that makes one partition, on a fresh label if asked. -/
def partitionScript (freshLabel : Bool) (bounds : Bounds) : Parted.Script where
  mode := .script
  unit := some sizeUnit
  commands :=
    (if freshLabel then [.makeLabel defaultLabel] else []) ++
      [.makePartition partitionKind bounds.start bounds.finish]

/-- A run of the partitioning tool that makes partitions, as it is shown. -/
def partedText (disk : Path) (script : Parted.Script) : Text :=
  "parted -s ".toList ++ disk.text ++ ' ' :: script.text

def text : Step → Text
  | createSystemPartition disk bounds => partedText disk (partitionScript true bounds)
  | createRawPartition disk bounds => partedText disk (partitionScript false bounds)
  | settle delay => "wait ".toList ++ delay.text ++ " for device nodes".toList
  | releaseMounts device => "unmount ".toList ++ device.text ++ " if mounted".toList
  | format device force => formatProgram ++ ' ' :: Text.spaced (formatArguments device force)

def systemPartition : Nat := 1

/-- The steps from a disk to its planned layout, in order. The raw partition is
made only when the plan leaves room for one, mounts are released only by force. -/
def forPlan (disk : Path) (plan : Plan) (force : Bool) (delay : Delay) : List Step :=
  let device := partitionPath disk systemPartition
  [createSystemPartition disk plan.systemBounds] ++
    (plan.rawBounds?.map (createRawPartition disk)).toList ++
    [settle delay] ++
    (if force then [releaseMounts device] else []) ++
    [format device force]

end Step

/-- The step that failed, and why. The steps before it stay done. -/
structure StepFailure where
  step : Step
  cause : HostError
  deriving DecidableEq, Repr

def StepFailure.message (failure : StepFailure) : Text :=
  failure.step.text ++ ": ".toList ++ failure.cause.message

def StepFailure.diagnostic (failure : StepFailure) : Text := failure.cause.diagnostic

end DiskPrep
