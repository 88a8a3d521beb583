import DiskPrep.Report.Mounts
import DiskPrep.Workflow

/-!
A host that answers from a script and records what was asked of it. Nothing is
carried out, except that a mount released disappears from the table of mounts.
-/
namespace DiskPrep

inductive QueryReply where
  | printed (output : Text)
  | failed (output : Text)
  deriving DecidableEq, Repr

/-- What each tool prints when it is set to fail, and nothing when it is not. -/
structure ToolFailures where
  parted : Option Text
  format : Option Text
  unmount : Option Text
  wipe : Option Text
  deriving DecidableEq, Repr

/-- The script with what is left of it, and the record so far. -/
structure ScriptedHost where
  /-- The report of block devices; it may be unreadable. -/
  partitions : Option Text
  mounts : Text
  /-- Answers to the queries still to come. -/
  replies : List QueryReply
  failures : ToolFailures
  blockDevices : List Path
  otherNodes : List Path
  root : Bool
  /-- Every request that leaves a trace, in order. -/
  record : List Call
  deriving DecidableEq, Repr

namespace ScriptedHost

def empty : ScriptedHost where
  partitions := some "major minor  #blocks  name\n\n".toList
  mounts := []
  replies := []
  failures := ⟨none, none, none, none⟩
  blockDevices := []
  otherNodes := []
  root := true
  record := []

def wipeProgram : Text := "boot-sector-wipe".toList

/-- A tool that failed, by the script, with exit status one. -/
def failedTool (program output : Text) : HostError := .commandFailed program (some 1) output

/-- The answer of a tool that fails only when it is set to. -/
def toolAnswer (program : Text) : Option Text → Except HostError Unit
  | some output => .error (failedTool program output)
  | none => .ok ()

/-- The line is an entry that the release of `target` removes: it is mounted
there, or it is the source named. -/
def isReleased (target : Path) (line : Text) : Bool :=
  match MountEntry.ofLine? line with
  | some entry => entry.mountPoint.same target || entry.source == target.text
  | none => false

def tableWithout (target : Path) (table : Text) : Text :=
  Text.joined ['\n'] ((Text.lines table).filter fun line => !isReleased target line)

/-- The registered path that decides what a path leads to is found by components. -/
def kindOf (host : ScriptedHost) (path : Path) : NodeKind :=
  if host.blockDevices.any (Path.same path) then .blockDevice
  else if host.otherNodes.any (Path.same path) then .other
  else .missing

def queueing (host : ScriptedHost) (reply : QueryReply) : ScriptedHost :=
  { host with replies := host.replies ++ [reply] }

def recording (host : ScriptedHost) (call : Call) : ScriptedHost :=
  { host with record := host.record ++ [call] }

def lineOf (what : Text) : LogLine := ⟨.info, "FAKE HAL: ".toList ++ what⟩

/-- The answer to a run of the partitioning tool, and the host after it. Only a
query takes an answer from the script. -/
def answerParted (host : ScriptedHost) (script : Parted.Script) :
    Except HostError Text × ScriptedHost :=
  if script.isQuery then
    match host.replies with
    | .printed output :: rest => (.ok output, { host with replies := rest })
    | .failed output :: rest =>
      (.error (failedTool partedProgram output), { host with replies := rest })
    | [] =>
      (.error (failedTool partedProgram "FAKE HAL: no scripted parted reply".toList), host)
  else ((toolAnswer partedProgram host.failures.parted).map fun _ => [], host)

def answerUnmount (host : ScriptedHost) (target : Path) :
    Except HostError Unit × ScriptedHost :=
  match toolAnswer unmountProgram host.failures.unmount with
  | .error cause => (.error cause, host)
  | .ok () => (.ok (), { host with mounts := tableWithout target host.mounts })

def answer : (call : Call) → ScriptedHost → Answer ScriptedHost call.Reply
  | .readPartitions, host =>
    let reply : Except HostError Text := match host.partitions with
      | some report => .ok report
      | none => .error (.other "FAKE HAL: /proc/partitions unreadable".toList)
    ⟨reply, host.recording .readPartitions, []⟩
  | .readMounts, host => ⟨.ok host.mounts, host.recording .readMounts, []⟩
  | .isRoot, host => ⟨host.root, host, []⟩
  | .nodeKind path, host => ⟨.ok (host.kindOf path), host, []⟩
  | .parted disk script, host =>
    let (reply, after) := (host.recording (.parted disk script)).answerParted script
    ⟨reply, after,
      [lineOf ("parted ".toList ++ Text.spaced (script.arguments disk))]⟩
  | .wipeBootSector disk, host =>
    ⟨toolAnswer wipeProgram host.failures.wipe, host.recording (.wipeBootSector disk),
      [lineOf ("wipe boot sector ".toList ++ disk.text)]⟩
  | .formatExt4 device force, host =>
    ⟨toolAnswer formatProgram host.failures.format, host.recording (.formatExt4 device force),
      [lineOf ("mkfs.ext4 ".toList ++ Text.spaced (formatArguments device force))]⟩
  | .unmount target, host =>
    let (reply, after) := (host.recording (.unmount target)).answerUnmount target
    ⟨reply, after, [lineOf ("unmount ".toList ++ target.text)]⟩
  | .settle delay, host => ⟨(), host.recording (.settle delay), []⟩

end ScriptedHost

def scripted : Host ScriptedHost := ⟨ScriptedHost.answer⟩

/-- The request stands for a run of a tool or a write to a device. -/
def Call.isInvocation : Call → Bool
  | readPartitions | readMounts | isRoot | nodeKind _ => false
  | parted .. | wipeBootSector _ | formatExt4 .. | unmount _ | settle _ => true

def Call.isWipe : Call → Bool
  | wipeBootSector _ => true
  | _ => false

end DiskPrep
