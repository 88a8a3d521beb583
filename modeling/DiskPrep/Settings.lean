import DiskPrep.CommandLine.Options
import DiskPrep.Notice

/-!
What a run is configured with, and how the environment and the command line
change it.
-/
namespace DiskPrep

structure Settings where
  /-- Share of the disk for the system partition, in percent. -/
  systemPercent : Nat
  /-- Pause between making partitions and formatting. -/
  delay : Delay
  /-- Tools that must be installed. -/
  tools : List Text
  /-- Directories in which tools are looked for, colons between them. -/
  searchPath : Text
  deriving DecidableEq, Repr

namespace Settings

def standard (searchPath : Text) : Settings where
  systemPercent := 5
  delay := .ofSeconds 2
  tools := [partedProgram, formatProgram]
  searchPath := searchPath

def percentVariable : Text := "RECDISK_SYSTEM_RATIO".toList

/-- The share of a system partition that takes the whole disk. -/
def wholeDiskPercent : Nat := 100

/-- A share from 1 to 100, blanks around it allowed. -/
def readPercent? (raw : Text) : Option Nat :=
  (Numeral.below? Numeral.byteLimit (Text.trim raw)).filter fun n => 1 ≤ n && n ≤ 100

/-- The share after the command line and the variable had their say: a request
for the whole disk wins, and a value that is no share changes nothing. -/
def percentFrom (request : CommandLine.Request) (override? : Option Text) (percent : Nat) : Nat :=
  if request.all then wholeDiskPercent
  else ((override?.bind readPercent?).getD percent)

def override (s : Settings) (request : CommandLine.Request) (override? : Option Text) : Settings :=
  { s with systemPercent := percentFrom request override? s.systemPercent }

def overrideNotices : Option Text → List Notice
  | none => []
  | some raw => if (readPercent? raw).isSome then [] else [.percentIgnored percentVariable raw]

end Settings

end DiskPrep
