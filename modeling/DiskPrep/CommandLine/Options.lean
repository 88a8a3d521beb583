import DiskPrep.Path

/-!
The command line as data: the options that it knows, what was asked for, and the
one command that a request selects.
-/
namespace DiskPrep.CommandLine

inductive Switch where
  | list
  | dryRun
  | force
  | partitions
  | all
  | reformat
  deriving DecidableEq, Repr

inductive Meaning where
  | switch (switch : Switch)
  | errno
  | help
  | version
  deriving DecidableEq, Repr

/-- An option: both of its names, the name of its value and its line of help. -/
structure OptionSpec where
  meaning : Meaning
  short : Char
  long : String
  value : Option String
  summary : String
  /-- The line of the full help, where it is another one. -/
  fullSummary : String := summary
  deriving Repr

def optionSpecs : List OptionSpec :=
  [{ meaning := .switch .list, short := 'l', long := "list", value := none,
     summary := "List attached disk(s) suitable for partitioning along with their total sizes " ++
       "and possible system partition sizes, separated by colon" },
   { meaning := .errno, short := 'e', long := "errno", value := some "N",
     summary := "Convert an error number returned by this tool to its message" },
   { meaning := .switch .dryRun, short := 'd', long := "dry_run", value := none,
     summary := "Execute the command but do not actually create partitions" },
   { meaning := .switch .force, short := 'f', long := "force", value := none,
     summary := "Force mkfs to create a file system and re-format existing partitions" },
   { meaning := .switch .partitions, short := 'p', long := "partitions", value := none,
     summary := "List partitions and their sizes separated by colon" },
   { meaning := .switch .all, short := 'a', long := "all", value := none,
     summary := "Format a single partition spanning the whole disk (no raw partition)" },
   { meaning := .switch .reformat, short := 'r', long := "reformat", value := none,
     summary := "Delete existing partitions and reformat (unmounts first)" },
   { meaning := .help, short := 'h', long := "help", value := none,
     summary := "Print help (see more with '--help')",
     fullSummary := "Print help (see a summary with '-h')" },
   { meaning := .version, short := 'V', long := "version", value := none,
     summary := "Print version" }]

structure Request where
  disk : Option Path
  errno : Option Int
  list : Bool
  dryRun : Bool
  force : Bool
  partitions : Bool
  all : Bool
  reformat : Bool
  deriving DecidableEq, Repr

namespace Request

def empty : Request := ⟨none, none, false, false, false, false, false, false⟩

def isOn (r : Request) : Switch → Bool
  | .list => r.list
  | .dryRun => r.dryRun
  | .force => r.force
  | .partitions => r.partitions
  | .all => r.all
  | .reformat => r.reformat

def turnOn (r : Request) : Switch → Request
  | .list => { r with list := true }
  | .dryRun => { r with dryRun := true }
  | .force => { r with force := true }
  | .partitions => { r with partitions := true }
  | .all => { r with all := true }
  | .reformat => { r with reformat := true }

end Request

/-- The commands, of which a run performs one. -/
inductive Command where
  | list
  | partitions
  | errno (code : Int)
  | partition (disk : Path)
  | help
  deriving DecidableEq, Repr

/-- The command that a request selects: the first that it asks for, in this order. -/
def Request.selected (r : Request) : Command :=
  if r.list then .list
  else if r.partitions then .partitions
  else match r.errno, r.disk with
    | some code, _ => .errno code
    | none, some disk => .partition disk
    | none, none => .help

end DiskPrep.CommandLine
