import DiskPrep.Path

/-!
One run of the partitioning tool: how it is driven, an optional unit and the
commands in order, with the argument vector that the run is given.
-/
namespace DiskPrep.Parted

inductive Mode where
  /-- Never prompt. -/
  | script
  /-- Output of colon-separated fields. -/
  | machine
  deriving DecidableEq, Repr

def Mode.flag : Mode → Text
  | script => "-s".toList
  | machine => "-m".toList

inductive Command where
  | makeLabel (label : Text)
  | makePartition (kind start finish : Text)
  | print
  deriving DecidableEq, Repr

def Command.words : Command → List Text
  | makeLabel label => ["mklabel".toList, label]
  | makePartition kind start finish => ["mkpart".toList, kind, start, finish]
  | print => ["print".toList]

def Command.isPrint : Command → Bool
  | print => true
  | _ => false

/-- One run: a mode, an optional unit and the commands, in order. -/
structure Script where
  mode : Mode
  unit : Option Text
  commands : List Command
  deriving DecidableEq, Repr

namespace Script

def unitWords : Option Text → List Text
  | some unit => ["unit".toList, unit]
  | none => []

/-- The words after the disk: the unit and every command. -/
def words (s : Script) : List Text :=
  unitWords s.unit ++ s.commands.flatMap Command.words

def arguments (s : Script) (disk : Path) : List Text :=
  s.mode.flag :: disk.text :: s.words

def text (s : Script) : Text := Text.spaced s.words

/-- The run changes nothing: every command only reads. -/
def isQuery (s : Script) : Bool := s.commands.all Command.isPrint

end Script

end DiskPrep.Parted

namespace DiskPrep

def partedProgram : Text := "parted".toList

def formatProgram : Text := "mkfs.ext4".toList

def unmountProgram : Text := "umount".toList

/-- Arguments of a format: the flag that overwrites without asking comes first. -/
def formatArguments (device : Path) (force : Bool) : List Text :=
  (if force then ["-FF".toList] else []) ++ [device.text]

end DiskPrep
