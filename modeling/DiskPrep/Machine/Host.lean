import DiskPrep.Machine.Tool
import DiskPrep.Preflight
import DiskPrep.Workflow

/-!
A host that carries requests out: tools are run, files are looked at and written.
The machine is in memory, so a run on it is a value like any other.
-/
namespace DiskPrep

structure Machine where
  tree : Machine.FileTree
  partitions : Text
  mounts : Text
  root : Bool
  deriving DecidableEq, Repr

namespace Machine

/-- A machine with nothing but an empty directory for tools, and the superuser at
work. -/
def bare : Machine := ⟨.empty, [], [], true⟩

def toolLine (program : Text) (arguments : List Text) : LogLine :=
  ⟨.info, program ++ ' ' :: Text.spaced arguments⟩

/-- What a run of a tool comes to: its output when it ended with status zero, and
otherwise a failure with all that it printed, less the blanks around it. -/
def replyTo (program : Text) (exit : Shell.Exit) (output diagnostics : Text) :
    Except HostError Text :=
  let failed (code : Option Int) : Except HostError Text :=
    .error (.commandFailed program code (Text.trim (output ++ diagnostics)))
  match exit with
  | .status 0 => .ok output
  | .status code => failed (some code)
  | .signal _ => failed none

def toolReply (program : Text) (finished : Shell.Finished) : Except HostError Text :=
  replyTo program finished.exit (Text.ofBytewise finished.output) (Text.ofBytewise finished.diagnostics)

/-- The reply to a request that a tool carries out, and the machine after it. -/
def useTool (machine : Machine) (program : Text) (arguments : List Text) :
    Answer Machine (Except HostError Text) :=
  let line := toolLine program arguments
  match runTool machine.tree program arguments with
  | .error .missing => ⟨.error (.commandNotFound program), machine, [line]⟩
  | .error (.refused cause) => ⟨.error (.system cause), machine, [line]⟩
  | .ok finished =>
    ⟨toolReply program finished, { machine with tree := finished.tree }, [line]⟩

def withoutOutput (answer : Answer Machine (Except HostError Text)) :
    Answer Machine (Except HostError Unit) :=
  ⟨answer.reply.map fun _ => (), answer.state, answer.lines⟩

/-- What a path leads to. A path that leads nowhere is missing; any other failure
of the walk is one. -/
def kindOf (machine : Machine) (path : Path) : Except HostError NodeKind :=
  match machine.tree.resolve path.text with
  | .ok (_, .device true) => .ok .blockDevice
  | .ok _ => .ok .other
  | .error (.number errno) =>
    if errno = notFound then .ok .missing else .error (.system (.number errno))
  | .error cause => .error (.system cause)

def sectorBytes : Nat := 512

/-- Overwrites the first sector of a file with zeros. -/
def wipe (machine : Machine) (path : Path) : Answer Machine (Except HostError Unit) :=
  let line : LogLine := ⟨.info, "🧹 Zeroing boot sector of ".toList ++ path.text⟩
  match machine.tree.overwriteStart path.text (List.replicate sectorBytes 0) with
  | .ok tree => ⟨.ok (), { machine with tree := tree }, [line]⟩
  | .error cause => ⟨.error (.system cause), machine, [line]⟩

def settleLine (delay : Delay) : LogLine :=
  ⟨.info, "Waiting ".toList ++ Binary.shortestText binary32 delay.inSeconds ++
    "s for partition nodes to appear".toList⟩

def answer : (call : Call) → Machine → Answer Machine call.Reply
  | .readPartitions, machine => ⟨.ok machine.partitions, machine, []⟩
  | .readMounts, machine => ⟨.ok machine.mounts, machine, []⟩
  | .isRoot, machine => ⟨machine.root, machine, []⟩
  | .nodeKind path, machine => ⟨machine.kindOf path, machine, []⟩
  | .parted disk script, machine => machine.useTool partedProgram (script.arguments disk)
  | .wipeBootSector disk, machine => machine.wipe disk
  | .formatExt4 device force, machine =>
    withoutOutput (machine.useTool formatProgram (formatArguments device force))
  | .unmount target, machine => withoutOutput (machine.useTool unmountProgram [target.text])
  | .settle delay, machine => ⟨(), machine, [settleLine delay]⟩

/-- The files of a machine, as far as the checks before a run look at them. -/
def fileView (machine : Machine) : Preflight.FileView := fun path =>
  match machine.tree.resolve path.text with
  | .ok (_, .directory mode) => some ⟨false, mode⟩
  | .ok (_, .file _ mode) => some ⟨true, mode⟩
  | .ok (_, .device _) => some ⟨false, Machine.deviceMode⟩
  | .error _ => none

end Machine

def onMachine : Host Machine := ⟨Machine.answer⟩

end DiskPrep
