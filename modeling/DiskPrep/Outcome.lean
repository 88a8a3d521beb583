import DiskPrep.Text.Basic

/-!
How a run ends. Every outcome has a code, which is also the exit status, and a
sentence; a failure adds what it is about.
-/
namespace DiskPrep

inductive Outcome where
  | ok
  | wrongDisk
  | wrongPath
  | notDisk
  | noTools
  | noPermissions
  | partitioningFailed
  | partitionMounted
  deriving DecidableEq, Repr

namespace Outcome

def code : Outcome → Nat
  | ok => 0
  | wrongDisk => 1
  | wrongPath => 2
  | notDisk => 3
  | noTools => 4
  | noPermissions => 5
  | partitioningFailed => 6
  | partitionMounted => 7

/-- Every outcome, in the order of the codes. -/
def all : List Outcome :=
  [ok, wrongDisk, wrongPath, notDisk, noTools, noPermissions, partitioningFailed, partitionMounted]

def ofCode? (code : Int) : Option Outcome :=
  all.find? fun outcome => (outcome.code : Int) == code

def message : Outcome → Text
  | ok => "Operation finished successfully".toList
  | wrongDisk => "The disk specified is already partitioned".toList
  | wrongPath => "Path to disk provided on the command line is invalid".toList
  | notDisk => "The path provided is a partition, not a disk".toList
  | noTools =>
    "One of the command-line utilities required for this script is not found".toList
  | noPermissions => "This script requires root permissions".toList
  | partitioningFailed => "Partitioning finished unsuccessfully".toList
  | partitionMounted => "Partition mounted, umount failed".toList

/-- The sentence for a code, also for one that no outcome has. -/
def describe (code : Int) : Text :=
  match ofCode? code with
  | some outcome => outcome.message
  | none => "No description available for this error code".toList

end Outcome

inductive Failure where
  /-- The disk has the partitions named. -/
  | wrongDisk (partitions : Text)
  /-- The path is no block device. -/
  | wrongPath (path : Text)
  /-- The path is not that of a whole disk. -/
  | notDisk (path : Text)
  /-- The tool is not installed. -/
  | noTools (tool : Text)
  /-- The user is not the superuser. -/
  | noPermissions
  /-- A step failed for the reason given. -/
  | partitioningFailed (reason : Text)
  /-- A mount could not be released. -/
  | partitionMounted (reason : Text)
  deriving DecidableEq, Repr

namespace Failure

def outcome : Failure → Outcome
  | wrongDisk _ => .wrongDisk
  | wrongPath _ => .wrongPath
  | notDisk _ => .notDisk
  | noTools _ => .noTools
  | noPermissions => .noPermissions
  | partitioningFailed _ => .partitioningFailed
  | partitionMounted _ => .partitionMounted

/-- What the failure is about; it may be empty. -/
def subject : Failure → Text
  | wrongDisk text | wrongPath text | notDisk text | noTools text
  | partitioningFailed text | partitionMounted text => text
  | noPermissions => []

def detail? (failure : Failure) : Option Text :=
  if failure.subject.isEmpty then none else some failure.subject

/-- The failure as it is printed: the outcome's sentence, then the detail. -/
def message (failure : Failure) : Text :=
  failure.outcome.message ++
    match failure.detail? with
    | some detail => ": ".toList ++ detail
    | none => []

end Failure

end DiskPrep
