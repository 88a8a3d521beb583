import DiskPrep.Program

/-!
The command line on a copy of the host. The kernel's reports, the block devices
and the tools are copied into a machine in memory, and the run changes nothing
but that copy: what it would do shows in the log, on standard error.
-/
namespace DiskPrep.CopiedHost

/-- A file's text, or nothing when it cannot be read. -/
def textOfFile (path : String) : IO Text := do
  try return (← IO.FS.readFile path).toList
  catch _ => return []

def bytesOfFile? (path : String) : IO (Option (List UInt8)) := do
  try return some (← IO.FS.readBinFile path).toList
  catch _ => return none

/-- The effective user of a process is the superuser, by the report of its status. -/
def isSuperuser (status : Text) : Bool :=
  (Text.lines status).any fun line =>
    match Text.words line with
    | label :: _ :: effective :: _ => label == "Uid:".toList && effective == ['0']
    | _ => false

def findFile (name : Text) : List Text → IO (Option (List UInt8))
  | [] => return none
  | directory :: rest => do
    match ← bytesOfFile? (String.ofList (Path.join directory name).text) with
    | some bytes => return some bytes
    | none => findFile name rest

/-- The machine with a copy of each tool that the search path holds. -/
def copyTools (directories : List Text) (tree : Machine.FileTree) :
    List Text → IO Machine.FileTree
  | [] => return tree
  | tool :: rest => do
    let tree := match ← findFile tool directories with
      | some bytes =>
        tree.plant (Machine.FileTree.toolLocation ++ [tool]) (.file bytes Machine.directoryMode)
      | none => tree
    copyTools directories tree rest

def plantDevices (report : Text) (tree : Machine.FileTree) : Machine.FileTree :=
  match DeviceRow.parseReport report with
  | .ok rows => rows.foldl (fun tree row =>
      tree.plant (Machine.FileTree.pieces (Path.ofDeviceName row.name).text) (.device true)) tree
  | .error _ => tree

/-- A copy of the host, with the tools that a run may ask for. -/
def copy (searchPath : Text) : IO Machine := do
  let partitions ← textOfFile "/proc/partitions"
  let mounts ← textOfFile "/proc/mounts"
  let status ← textOfFile "/proc/self/status"
  let tree ← copyTools (Preflight.directories searchPath) .empty
    [partedProgram, formatProgram, unmountProgram]
  return ⟨plantDevices partitions tree, partitions, mounts, isSuperuser status⟩

def environment? (name : String) : IO (Option Text) := do
  return (← IO.getEnv name).map String.toList

/-- Lines that are written when nothing else is asked for. -/
def isShown (line : LogLine) : Bool := line.level != .debug

end DiskPrep.CopiedHost

open DiskPrep in
/-- Runs the command line, and ends with the status of its outcome. -/
def main (arguments : List String) : IO UInt32 := do
  let machine ← CopiedHost.copy ((← CopiedHost.environment? "PATH").getD [])
  let override? ← CopiedHost.environment? (String.ofList Settings.percentVariable)
  let run := (Program.ofArguments machine.fileView Machine.FileTree.toolDirectory override?
    (arguments.map String.toList)).run onMachine machine
  for line in run.log.filter CopiedHost.isShown do
    IO.eprintln (String.ofList line.written)
  IO.print (String.ofList run.value.printed)
  return UInt32.ofNat run.value.status
