import DiskPrep.Path
import DiskPrep.Text.Numeral

/-!
Names of disks and of their partitions. A whole disk is `sd` and one lower-case
letter, a partition is its disk's name and a number; whatever else a path ends in
is not a disk and must be turned away before anything is changed.
-/
namespace DiskPrep

def isDriveLetter (c : Char) : Bool := 'a' ≤ c && c ≤ 'z'

def isWholeDiskName : Text → Bool
  | ['s', 'd', letter] => isDriveLetter letter
  | _ => false

/-- The path ends in the name of a whole disk, with nothing after it. -/
def isWholeDisk (path : Path) : Bool :=
  match path.text.reverse with
  | letter :: 'd' :: 's' :: _ => isDriveLetter letter
  | _ => false

/-- The path does not end in the name of a whole disk. -/
def isPartition (path : Path) : Bool := !isWholeDisk path

/-- The name is the disk's name followed by one or more digits. -/
def isPartitionOf (name disk : Text) : Bool :=
  match Text.dropPrefix? disk name with
  | some number => !number.isEmpty && number.all Numeral.isDigit
  | none => false

/-- The whole disk that a path belongs to: the path without the digits at its end. -/
def parentDisk? (path : Path) : Option Path :=
  let disk : Path := ⟨Text.dropEndWhile Numeral.isDigit path.text⟩
  if isWholeDisk disk then some disk else none

def partitionPath (disk : Path) (number : Nat) : Path := ⟨disk.text ++ decimal number⟩

end DiskPrep
