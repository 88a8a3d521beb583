import DiskPrep.CommandLine.Options

/-!
The two help texts and the line with the version. The summary has a line for each
option, the full help a paragraph.
-/
namespace DiskPrep.CommandLine

def programName : Text := "recdisk".toList

def versionText : Text := programName ++ " 0.3.0\n".toList

def purpose : Text := "Prepare and partition a new disk for fast recording".toList

def fullPurpose : Text :=
  purpose ++ (".\n\n" ++
    "Creates two partitions on a disk: a small ext4 system partition and a raw,\n" ++
    "unformatted partition for direct high-throughput writes.").toList

/-- The argument that is no option, and what it is. -/
def argumentName : Text := "[DISK_PATH]".toList

def argumentSummary : Text := "Path to a disk which should be partitioned, e.g. /dev/sda".toList

def OptionSpec.names (o : OptionSpec) : Text :=
  '-' :: o.short :: ", --".toList ++ o.long.toList ++
    match o.value with
    | some value => " <".toList ++ value.toList ++ ['>']
    | none => []

def padTo (width : Nat) (t : Text) : Text := t ++ List.replicate (width - t.length) ' '

/-- An entry on one line: the name in a column, then the text. -/
def shortEntry (width : Nat) (name summary : Text) : Text :=
  "  ".toList ++ padTo width name ++ "  ".toList ++ summary ++ ['\n']

/-- An entry on two lines: the name, then the text further in. -/
def fullEntry (name summary : Text) : Text :=
  "  ".toList ++ name ++ "\n          ".toList ++ summary ++ ['\n']

/-- The head of both texts. -/
def usage (about : Text) : Text :=
  about ++ "\n\nUsage: ".toList ++ programName ++ " [OPTIONS] ".toList ++ argumentName ++
    "\n\nArguments:\n".toList

def shortHelp : Text :=
  let width := (optionSpecs.map fun o => o.names.length).foldl max 0
  usage purpose ++ shortEntry argumentName.length argumentName argumentSummary ++
    "\nOptions:\n".toList ++
    optionSpecs.flatMap fun o => shortEntry width o.names o.summary.toList

def fullHelp : Text :=
  usage fullPurpose ++ fullEntry argumentName argumentSummary ++ "\nOptions:\n".toList ++
    Text.joined ['\n'] (optionSpecs.map fun o => fullEntry o.names o.fullSummary.toList)

end DiskPrep.CommandLine
