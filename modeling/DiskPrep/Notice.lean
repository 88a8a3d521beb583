import DiskPrep.Disk.Step

/-!
What a run tells its operator while it works. A notice is data; the line it
becomes is made in one place.
-/
namespace DiskPrep

inductive Level where
  | error
  | warning
  | info
  | debug
  deriving DecidableEq, Repr

def Level.text : Level → Text
  | error => "ERROR".toList
  | warning => "WARN".toList
  | info => "INFO".toList
  | debug => "DEBUG".toList

structure LogLine where
  level : Level
  text : Text
  deriving DecidableEq, Repr

def LogLine.written (line : LogLine) : Text := line.level.text ++ ' ' :: line.text

/-- What a dry run would have done. -/
inductive Intent where
  | unmount (mountPoint : Path)
  | wipe (disk : Path)
  | step (planned : Step)
  deriving DecidableEq, Repr

def Intent.text : Intent → Text
  | unmount mountPoint => "unmount ".toList ++ mountPoint.text
  | wipe disk => "wipe boot sector of ".toList ++ disk.text
  | step planned => planned.text

/-- The events worth telling. -/
inductive Notice where
  | toolFound (tool : Text)
  | percentIgnored (name raw : Text)
  | disksUnknown (cause : HostError)
  | partitionsUnknown (disk : Path) (cause : HostError)
  | sizeUnknown (disk : Path) (cause : HostError)
  | labelling (disk : Path)
  | skippingPartitionCheck (disk : Path)
  | partitioning (disk : Path) (plan : Plan)
  | partitioned (disk : Path) (plan : Plan)
  | stepFailed (failure : StepFailure)
  | releasing (device mountPoint : Path)
  | unmountFailed (mountPoint : Path) (cause : HostError)
  | wiping (disk : Path)
  | wipeFailed (disk : Path) (cause : HostError)
  | nothingToReformat
  | reformatted (disk : Path)
  | intended (intent : Intent)
  deriving DecidableEq, Repr

namespace Notice

def level : Notice → Level
  | toolFound _ => .debug
  | percentIgnored .. | disksUnknown _ | partitionsUnknown .. | sizeUnknown .. | wipeFailed .. =>
    .warning
  | stepFailed _ | unmountFailed .. => .error
  | _ => .info

def text : Notice → Text
  | toolFound tool => "found ".toList ++ tool
  | percentIgnored name raw =>
    "Ignoring ".toList ++ name ++ '=' :: Text.quoted raw ++
      ": expected an integer between 1 and 100".toList
  | disksUnknown cause =>
    "Disk discovery failed, reporting no disks: ".toList ++ cause.message
  | partitionsUnknown disk cause =>
    "Partition discovery for ".toList ++ disk.text ++ " failed, reporting none: ".toList ++
      cause.message
  | sizeUnknown disk cause =>
    "Unable to determine size of ".toList ++ disk.text ++ ": ".toList ++ cause.message
  | labelling disk =>
    disk.text ++ " has no partition table, writing ".toList ++ defaultLabel ++ " label".toList
  | skippingPartitionCheck disk =>
    disk.text ++ " was just wiped, skipping partition check".toList
  | partitioning disk plan => "Partitioning ".toList ++ disk.text ++ ": ".toList ++ plan.text
  | partitioned disk plan => disk.text ++ " partitioned: ".toList ++ plan.text
  | stepFailed failure =>
    failure.step.text ++ " failed, leaving disk as is: ".toList ++ failure.cause.message
  | releasing device mountPoint =>
    device.text ++ " is mounted on ".toList ++ mountPoint.text ++
      ", unmounting before format".toList
  | unmountFailed mountPoint cause =>
    "Unable to unmount ".toList ++ mountPoint.text ++ ": ".toList ++ cause.message
  | wiping disk => "Wiping boot sector of ".toList ++ disk.text
  | wipeFailed disk cause =>
    "Boot sector wipe of ".toList ++ disk.text ++ " failed: ".toList ++ cause.message
  | nothingToReformat => "No disk found, nothing to reformat".toList
  | reformatted disk => disk.text ++ " reformatted".toList
  | intended intent => "DRY RUN: ".toList ++ intent.text

def line (notice : Notice) : LogLine := ⟨notice.level, notice.text⟩

end Notice

end DiskPrep
