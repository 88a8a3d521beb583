import DiskPrep.Proofs.Report.DeviceReport
import DiskPrep.Proofs.Session.Listing
import DiskPrep.Proofs.Session.PartitionTrace

/-!
The waiver of the check for partitions. A disk that the report knows to have partitions is
laid out only behind a wipe of it, because nothing else lets a run past the check
(`exists_wipe_before_layout`). The waiver does not look at the answer: whether the wipe has
succeeded is up to the tool alone.
-/
namespace DiskPrep

open Workflow

/-- The request makes a partition on the disk, or formats the disk's system partition. -/
def Call.laysOut (disk : Path) : Call → Bool
  | parted other script => other == disk && script.commands.any Parted.Command.isMakePartition
  | formatExt4 device _ => device == partitionPath disk Step.systemPartition
  | _ => false

theorem Call.isLayout_of_laysOut {disk : Path} {call : Call} (lays : call.laysOut disk = true) :
    call.isLayout = true := by
  cases call with
  | parted other script => exact (Bool.and_eq_true_iff.mp lays).2
  | formatExt4 device force => rfl
  | _ => cases lays

theorem partitionPath_injective {disk other : Path} {number : Nat}
    (same : partitionPath disk number = partitionPath other number) : disk = other := by
  obtain ⟨text⟩ := disk
  obtain ⟨otherText⟩ := other
  have texts : text ++ decimal number = otherText ++ decimal number := congrArg Path.text same
  rw [List.append_cancel_right texts]

/-- A line of the report is for a partition of the disk. The other lines need not be rows. -/
def ScriptedHost.Lists (host : ScriptedHost) (disk : Path) : Prop :=
  ∃ report line diskName partition, host.partitions = some report ∧
    line ∈ (Text.lines report).drop DeviceRow.headingLines ∧
    disk.baseName? = some diskName ∧
    (Text.words line)[DeviceRow.namePlace]? = some partition ∧ IsNumbered diskName partition

/-- A report of the first disk with two partitions. -/
def ScriptedHost.twoPartitions : Text :=
  ("major minor  #blocks  name\n\n   8        0  500107608 sda\n" ++
    "   8        1   25000000 sda1\n   8        2  475107608 sda2\n").toList

theorem ScriptedHost.lists_twoPartitions {host : ScriptedHost}
    (script : host.partitions = some twoPartitions) : host.Lists firstDisk :=
  ⟨twoPartitions, "   8        1   25000000 sda1".toList, "sda".toList, "sda1".toList, script,
    by decide +kernel, by decide +kernel, by decide +kernel, ['1'], rfl, by decide,
    List.forall_mem_singleton.mpr rfl⟩

namespace Session

section anyHost

variable {σ : Type} {host : Host σ} {state : σ} {settings : Settings} {disk path : Path}
  {flags : RunFlags} {request : CommandLine.Request} {m : Moment σ}

theorem laysOut_of_mem_partitionDisk (lays : m.call.laysOut disk = true)
    (member : m ∈ (partitionDisk settings path flags).history host state) :
    path = disk ∧ flags.dryRun = false := by
  have asks := asks_of_mem_partitionDisk member
  generalize m.call = call at asks lays
  cases asks with
  | query whole => cases (Bool.and_eq_true_iff.mp lays).2
  | write whole live script => exact ⟨beq_iff_eq.mp (Bool.and_eq_true_iff.mp lays).1, live⟩
  | format whole live => exact ⟨partitionPath_injective (beq_iff_eq.mp lays), live⟩
  | _ => cases lays

/-- A disk is laid out only by the command to partition it, and not in a dry run. -/
theorem laysOut_of_mem_perform {command : CommandLine.Command} (lays : m.call.laysOut disk = true)
    (member : m ∈ (perform settings flags command).history host state) :
    command = .partition disk ∧ flags.dryRun = false := by
  rcases mem_perform member with call | ⟨name, -, call | ⟨-, call⟩⟩ | ⟨path, rfl, laying⟩
  · rw [call] at lays
    cases lays
  · rw [call, Call.laysOut] at lays
    cases (Bool.and_eq_true_iff.mp lays).2
  · rw [call, Call.laysOut] at lays
    cases (Bool.and_eq_true_iff.mp lays).2
  · obtain ⟨rfl, live⟩ := laysOut_of_mem_partitionDisk lays laying
    exact ⟨rfl, live⟩

theorem not_laysOut_of_mem_reformatFirst (lays : m.call.laysOut disk = true) :
    m ∉ (reformatFirst request).history host state := by
  intro member
  rcases mem_reformatFirst member with reads | ⟨-, ⟨point, call⟩ | ⟨wiped, call⟩⟩
  · have changes : m.call.isChange = true := Call.isChange_of_isLayout (Call.isLayout_of_laysOut lays)
    rw [Call.not_change_of_reads reads] at changes
    cases changes
  · rw [call] at lays
    cases lays
  · rw [call] at lays
    cases lays

/-- A run that goes on as if its disk were fresh has asked for the wipe of it. -/
theorem exists_wipe_of_reformatted (chosen : request.selected = .partition disk)
    (success : ((reformatFirst request).run host state).value = .ok flags)
    (fresh : flags.reformatted = true) (live : flags.dryRun = false)
    (whole : isWholeDisk disk = true) :
    ∃ w ∈ (reformatFirst request).history host state, w.call = .wipeBootSector disk := by
  have named : request.disk = some disk := CommandLine.Request.disk_of_selected chosen
  obtain ⟨rfl, -⟩ := reformatFirst_ok named success
  have asked := wipe_asked_of_reformatFirst named success fresh live
  rwa [stem_of_isWholeDisk whole] at asked

end anyHost

section scriptedHost

variable {settings : Settings} {request : CommandLine.Request} {disk : Path} {host : ScriptedHost}

/-- A report that lists a partition of a disk does not clear the disk. -/
theorem not_cleared_by_report {α : Type} {w : Workflow α} {flags : RunFlags}
    {earlier : List (Moment ScriptedHost)} (lists : host.Lists disk)
    (within : earlier ⊆ w.history scripted host) (cleared : Cleared disk flags earlier) :
    flags.reformatted = true := by
  rcases cleared.unpartitioned with fresh | ⟨report, rows, name, ⟨met, read⟩, parsed, base, absent⟩
  · exact fresh
  · obtain ⟨scriptReport, line, diskName, partition, script, listed, named, column, numbered⟩ := lists
    have answered : Except.ok report = (ScriptedHost.answer .readPartitions met).reply :=
      reply_of_mem_history (within read)
    have kept := congrArg ScriptedHost.partitions (ScriptedHost.history_frame (within read))
    simp only at kept
    simp only [ScriptedHost.answer, kept, script, Except.ok.injEq] at answered
    rw [answered] at parsed
    obtain ⟨row, member, rowName⟩ := DeviceRow.exists_row_of_line parsed listed column
    rw [named, Option.some.injEq] at base
    rw [← rowName, base] at numbered
    exact absurd numbered (absent row member)

/-- A disk that the report lists a partition of is laid out behind a request to wipe it. -/
theorem exists_wipe_before_layout {earlier later : List (Moment ScriptedHost)}
    {m : Moment ScriptedHost} (lists : host.Lists disk)
    (split : (dispatch settings request).history scripted host = earlier ++ m :: later)
    (lays : m.call.laysOut disk = true) : ∃ w ∈ earlier, w.call = .wipeBootSector disk := by
  have whole_run := split
  rw [dispatch, bind_eq, history_bind] at split
  obtain ⟨between, rfl, rest⟩ := split_after split (not_laysOut_of_mem_reformatFirst lays)
  cases first : ((reformatFirst request).run scripted host).value with
  | error failure =>
    rw [first] at rest
    exact absurd rest (by simp)
  | ok flags =>
    rw [first] at rest
    dsimp only at rest
    obtain ⟨chosen, live⟩ := laysOut_of_mem_perform lays
      (rest ▸ List.mem_append_right between List.mem_cons_self)
    rw [chosen, perform, bind_eq, history_bind, pure_eq, history_done, List.append_nil] at rest
    have changes : m.call.isChange = true :=
      Call.isChange_of_isLayout (Call.isLayout_of_laysOut lays)
    have cleared : Cleared disk flags between := cleared_of_change rest (Or.inl changes)
    -- The report speaks against the disk, so it was the reformat that cleared it.
    have within : between ⊆ (dispatch settings request).history scripted host := by
      intro other member
      rw [whole_run]
      exact List.mem_append_left _ (List.mem_append_right _ member)
    have fresh : flags.reformatted = true := not_cleared_by_report lists within cleared
    obtain ⟨w, member, call⟩ := exists_wipe_of_reformatted chosen first fresh live cleared.whole
    exact ⟨w, List.mem_append_left between member, call⟩

/-- The answer to a wipe is up to the tool alone. -/
theorem wipe_answer {α : Type} {w : Workflow α} {earlier : List (Moment ScriptedHost)}
    {reply : Except HostError Unit} (within : earlier ⊆ w.history scripted host)
    (answered : Answered earlier (.wipeBootSector disk) reply) :
    reply = ScriptedHost.toolAnswer ScriptedHost.wipeProgram host.failures.wipe := by
  obtain ⟨met, member⟩ := answered
  have given : reply = (ScriptedHost.answer (.wipeBootSector disk) met).reply :=
    reply_of_mem_history (within member)
  have kept := congrArg ScriptedHost.failures (ScriptedHost.history_frame (within member))
  simp only at kept
  rw [given, ScriptedHost.answer, kept]

end scriptedHost

/-- A disk that the report lists a partition of is laid out only after a request to wipe it.
That this wipe had succeeded holds exactly when the tool that wipes is not set to fail, or the
run does not get to lay out the disk. -/
theorem laid_out_after_wipe_iff (settings : Settings) (request : CommandLine.Request) (disk : Path)
    (host : ScriptedHost) (lists : host.Lists disk) :
    (∀ earlier m later,
      (dispatch settings request).history scripted host = earlier ++ m :: later →
      m.call.laysOut disk = true → ∃ reply, Answered earlier (.wipeBootSector disk) reply) ∧
    ((∀ earlier m later,
        (dispatch settings request).history scripted host = earlier ++ m :: later →
        m.call.laysOut disk = true → Answered earlier (.wipeBootSector disk) (.ok ())) ↔
      host.failures.wipe = none ∨
        ∀ m ∈ (dispatch settings request).history scripted host, m.call.laysOut disk = false) := by
  have behind_wipe : ∀ earlier m later,
      (dispatch settings request).history scripted host = earlier ++ m :: later →
      m.call.laysOut disk = true → ∃ reply, Answered earlier (.wipeBootSector disk) reply := by
    intro earlier m later split lays
    obtain ⟨⟨met, call, reply⟩, member, rfl⟩ := exists_wipe_before_layout lists split lays
    exact ⟨reply, met, member⟩
  have within : ∀ earlier m later,
      (dispatch settings request).history scripted host = earlier ++ m :: later →
      earlier ⊆ (dispatch settings request).history scripted host := by
    intro earlier m later split
    rw [split]
    exact List.subset_append_left earlier _
  refine ⟨behind_wipe, ?_, ?_⟩
  · intro after_success
    by_contra refuted
    obtain ⟨fails, laid⟩ := not_or.mp refuted
    obtain ⟨m, member, lays⟩ : ∃ m ∈ (dispatch settings request).history scripted host,
        m.call.laysOut disk = true := by
      simpa using laid
    obtain ⟨earlier, later, split⟩ := List.append_of_mem member
    have success := wipe_answer (within _ _ _ split) (after_success earlier m later split lays)
    obtain ⟨output, fails⟩ := Option.ne_none_iff_exists'.mp fails
    rw [fails] at success
    cases success
  · rintro (works | never) earlier m later split lays
    · obtain ⟨reply, answered⟩ := behind_wipe earlier m later split lays
      have success := wipe_answer (within _ _ _ split) answered
      rw [works] at success
      rwa [success] at answered
    · have member : m ∈ (dispatch settings request).history scripted host := by
        rw [split]
        exact List.mem_append_right earlier List.mem_cons_self
      rw [never m member] at lays
      cases lays

/-- A disk with two partitions is laid out again behind a wipe that succeeded. -/
theorem partitioned_disk_wiped_first :
    let host := { ScriptedHost.oneDisk [] with
      partitions := some ScriptedHost.twoPartitions }
    let disk := ScriptedHost.firstDisk
    let request : CommandLine.Request :=
      { CommandLine.Request.empty with disk := some disk, reformat := true }
    host.Lists disk ∧
      ∃ earlier m later,
        (dispatch (Settings.standard []) request).history scripted host = earlier ++ m :: later ∧
        m.call = .formatExt4 ⟨"/dev/sda1".toList⟩ true ∧
        Answered earlier (.wipeBootSector disk) (.ok ()) := by
  intro host disk request
  have lists : host.Lists disk := ScriptedHost.lists_twoPartitions rfl
  have formats : Call.formatExt4 ⟨"/dev/sda1".toList⟩ true ∈
      ((dispatch (Settings.standard []) request).history scripted host).map Moment.call := by
    decide +kernel
  obtain ⟨m, member, call⟩ := List.mem_map.mp formats
  obtain ⟨earlier, later, split⟩ := List.append_of_mem member
  refine ⟨lists, earlier, m, later, split, call, ?_⟩
  have lays : m.call.laysOut disk = true := by
    rw [call]
    rfl
  exact ((laid_out_after_wipe_iff _ request disk host lists).2.mpr (Or.inl rfl))
    earlier m later split lays

/-- A wipe that fails waives the check all the same: the disk is laid out over partitions that
the report lists. -/
theorem failed_wipe_waives_check :
    let host := { ScriptedHost.oneDisk [] with
      partitions := some ScriptedHost.twoPartitions
      failures := ⟨none, none, none, some "Permission denied".toList⟩ }
    let disk := ScriptedHost.firstDisk
    let request : CommandLine.Request :=
      { CommandLine.Request.empty with disk := some disk, reformat := true }
    host.Lists disk ∧
      ¬ ∀ earlier m later,
        (dispatch (Settings.standard []) request).history scripted host = earlier ++ m :: later →
        m.call.laysOut disk = true → Answered earlier (.wipeBootSector disk) (.ok ()) := by
  intro host disk request
  refine ⟨ScriptedHost.lists_twoPartitions rfl, ?_⟩
  intro after_success
  have formats : Call.formatExt4 ⟨"/dev/sda1".toList⟩ true ∈
      ((dispatch (Settings.standard []) request).history scripted host).map Moment.call := by
    decide +kernel
  obtain ⟨m, member, call⟩ := List.mem_map.mp formats
  obtain ⟨earlier, later, split⟩ := List.append_of_mem member
  have lays : m.call.laysOut disk = true := by
    rw [call]
    rfl
  have within : earlier ⊆ (dispatch (Settings.standard []) request).history scripted host := by
    rw [split]
    exact List.subset_append_left earlier _
  have success := wipe_answer within (after_success earlier m later split lays)
  cases success

end Session

end DiskPrep
