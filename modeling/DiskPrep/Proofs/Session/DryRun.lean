import DiskPrep.Proofs.Session.PartitionTrace

/-!
A dry run changes nothing. Whatever it is asked for, it reads the reports of the kernel, looks
at paths and asks for sizes (`looks_of_mem_dispatch`); on a scripted host it leaves a longer
record and fewer replies, and all else as it was (`dry_run_changes_nothing`).
-/
namespace DiskPrep

open Workflow

/-- The request only looks: it reads a report of the kernel, looks at a path, or asks for the
size of a disk with these words. -/
inductive Call.Looks : Call → Prop
  | readPartitions : Looks .readPartitions
  | readMounts : Looks .readMounts
  | isRoot : Looks .isRoot
  | nodeKind (path : Path) : Looks (.nodeKind path)
  | askSize {disk : Path} {script : Parted.Script}
      (words : script.arguments disk =
        ["-m".toList, disk.text, "unit".toList, "GB".toList, "print".toList]) :
      Looks (.parted disk script)

theorem Call.looks_of_reads {call : Call} (reads : call.isInvocation = false) : call.Looks := by
  cases call with
  | readPartitions => exact .readPartitions
  | readMounts => exact .readMounts
  | isRoot => exact .isRoot
  | nodeKind path => exact .nodeKind path
  | _ => cases reads

theorem Call.looks_sizeQuery (disk : Path) : Looks (.parted disk Survey.sizeQuery) := .askSize rfl

theorem Call.Looks.not_unmount {call : Call} (looks : call.Looks) (point : Path) :
    call ≠ .unmount point := by
  rintro rfl
  cases looks

namespace Session

section anyHost

variable {σ : Type} {host : Host σ} {state : σ} {settings : Settings} {disk : Path}
  {flags : RunFlags} {request : CommandLine.Request} {m : Moment σ}

theorem looks_of_mem_partitionDisk (dry : flags.dryRun = true)
    (member : m ∈ (partitionDisk settings disk flags).history host state) : m.call.Looks := by
  have asks := asks_of_mem_partitionDisk member
  have not_live : flags.dryRun ≠ false := by
    rw [dry]
    exact Bool.noConfusion
  generalize m.call = call at asks
  cases asks with
  | kind => exact .nodeKind disk
  | report => exact .readPartitions
  | query whole => exact Call.looks_sizeQuery disk
  | write whole live script => exact absurd live not_live
  | settle live => exact absurd live not_live
  | mounts live forced => exact .readMounts
  | release live forced point => exact absurd live not_live
  | format whole live => exact absurd live not_live

theorem looks_of_mem_perform {command : CommandLine.Command} (dry : flags.dryRun = true)
    (member : m ∈ (perform settings flags command).history host state) : m.call.Looks := by
  rcases mem_perform member with call | ⟨name, -, call | ⟨live, -⟩⟩ | ⟨disk, -, partitioning⟩
  · rw [call]
    exact .readPartitions
  · rw [call]
    exact Call.looks_sizeQuery _
  · rw [dry] at live
    cases live
  · exact looks_of_mem_partitionDisk dry partitioning

/-- A dry run only looks, whatever it is asked for. -/
theorem looks_of_mem_dispatch (dry : request.dryRun = true)
    (member : m ∈ (dispatch settings request).history host state) : m.call.Looks := by
  rcases mem_dispatch member with reformatting | ⟨flags, success, performing⟩
  · rcases mem_reformatFirst reformatting with reads | ⟨live, -⟩
    · exact Call.looks_of_reads reads
    · rw [dry] at live
      cases live
  · exact looks_of_mem_perform ((dryRun_of_reformatFirst success).trans dry) performing

end anyHost

/-- A dry run changes nothing, whatever it is asked for. What it puts on record are readings of
the kernel's reports and queries for sizes, and all that it changes of a scripted host is this
record, and the replies that the queries have used up. -/
theorem dry_run_changes_nothing (settings : Settings) (request : CommandLine.Request)
    (host : ScriptedHost) (dry : request.dryRun = true) :
    ∃ calls,
      ((dispatch settings request).run scripted host).state =
        { host with
          record := host.record ++ calls
          replies := host.replies.drop (calls.countP Call.usesReply) } ∧
      ∀ call ∈ calls, call = .readPartitions ∨ call = .readMounts ∨
        ∃ disk script, call = .parted disk script ∧ script.arguments disk =
          ["-m".toList, disk.text, "unit".toList, "GB".toList, "print".toList] := by
  refine ⟨(dispatch settings request).trace scripted host, ?_, ?_⟩
  · refine ScriptedHost.run_unreleased ?_
    intro m member
    exact (looks_of_mem_dispatch dry member).not_unmount
  · intro call member
    obtain ⟨m, asked, rfl⟩ := exists_mem_of_mem_trace member
    have recorded : m.call.isRecorded = true := (List.mem_filter.mp member).2
    have looks : m.call.Looks := looks_of_mem_dispatch dry asked
    generalize m.call = call at recorded looks
    cases looks with
    | readPartitions => exact Or.inl rfl
    | readMounts => exact Or.inr (Or.inl rfl)
    | isRoot => cases recorded
    | nodeKind path => cases recorded
    | askSize words => exact Or.inr (Or.inr ⟨_, _, rfl, words⟩)

/-- A dry listing behind a dry reformat leaves an unlabelled disk and its mount as they are. -/
theorem dry_listing_only_asks :
    let host := { ScriptedHost.empty with
      partitions := some "major minor  #blocks  name\n\n   8  0  97656250  sda\n".toList
      mounts := "/dev/sda /mnt ext4\n".toList
      replies := [.failed "BYT;\n/dev/sda:100GB:scsi:512:512:unknown:disk;\n".toList] }
    let request : CommandLine.Request :=
      { CommandLine.Request.empty with
        list := true, dryRun := true, force := true, reformat := true }
    ((dispatch (Settings.standard []) request).run scripted host).state =
      { host with
        record := [.readPartitions, .readMounts, .readPartitions,
          .parted ScriptedHost.firstDisk Survey.sizeQuery]
        replies := [] } := by
  intro host request
  obtain ⟨calls, state, -⟩ := dry_run_changes_nothing (Settings.standard []) request host rfl
  have recorded : ((dispatch (Settings.standard []) request).run scripted host).state.record =
      [.readPartitions, .readMounts, .readPartitions,
        .parted ScriptedHost.firstDisk Survey.sizeQuery] := by
    decide +kernel
  rw [state] at recorded ⊢
  obtain rfl : calls = _ := recorded
  rfl

end Session

end DiskPrep
