import DiskPrep.Proofs.Session.InStep

/-!
Two spellings of one path. Nodes, disks and reports are looked up by the components of a path,
so runs on two spellings of a whole disk are in step until they look at the table of mounts.
There the text of the path is what counts, and the runs agree exactly when both spellings lead
to mounts at the same places (`spelling_agrees_iff`).
-/
namespace DiskPrep

open Workflow

def CommandLine.Request.on (request : Request) (path : Path) : Request :=
  { request with disk := some path }

/-- A request partitions whatever path it is for, or never looks at it. -/
theorem CommandLine.Request.selected_on (request : Request) :
    (∀ path, (request.on path).selected = .partition path) ∨
      ∃ command, (∀ path, (request.on path).selected = command) ∧
        ∀ disk, command ≠ .partition disk := by
  obtain ⟨disk, errno, list, dryRun, force, partitions, all, reformat⟩ := request
  cases list with
  | true => exact Or.inr ⟨.list, fun _ => rfl, fun _ => by simp⟩
  | false =>
    cases partitions with
    | true => exact Or.inr ⟨.partitions, fun _ => rfl, fun _ => by simp⟩
    | false =>
      cases errno with
      | some code => exact Or.inr ⟨.errno code, fun _ => rfl, fun _ => by simp⟩
      | none => exact Or.inl fun _ => rfl

namespace Session

variable {host : ScriptedHost} {Q : Text → Text → Prop} {settings : Settings}
  {request : CommandLine.Request} {p q : Path}

section runs

variable (same : p.components = q.components) (whole : isWholeDisk p = true)
  (whole' : isWholeDisk q = true)

include same whole whole' in
theorem inStep_perform {flags : RunFlags}
    (agree : flags.dryRun = false → flags.force = true → ∀ mounts mounts', Q mounts mounts' →
      FormatsAgree host p q mounts mounts') :
    InStep (host.Twin Q) (perform settings flags (request.on p).selected)
      (perform settings flags (request.on q).selected) SameOutcome := by
  rcases request.selected_on with partitions | ⟨command, fixed, other⟩
  · rw [partitions, partitions]
    exact inStep_perform_partition same settings whole whole' agree
  · rw [fixed, fixed]
    exact inStep_perform_self settings flags other

/-- Where no source begins with the text of the disk, a format releases nothing. -/
theorem formatPoints_cleared {disk : Path} {table : Text}
    (cleared : ∀ entry ∈ MountEntry.parseTable table, ¬ disk.text <+: entry.source) :
    formatPoints (partitionPath disk Step.systemPartition) (MountEntry.parseTable table) = [] := by
  have none_selected : MountEntry.pointsOf (MountEntry.parseTable table)
      (partitionPath disk Step.systemPartition) = [] := by
    refine MountEntry.pointsOf_eq_nil_iff.mpr ?_
    intro entry listed source
    refine cleared entry listed ?_
    rw [source]
    exact List.prefix_append disk.text _
  exact MountEntry.deepestFirst_eq_nil_iff.mpr none_selected

include same in
theorem inStep_checkBlockDevice :
    InStep (host.Twin Q) (Reformat.checkBlockDevice p) (Reformat.checkBlockDevice q)
      (EndAlike host Q) := by
  refine .nodeKind same fun kind => ?_
  cases kind with
  | error cause => exact .done fun _ _ _ => rfl
  | ok kind =>
    cases kind with
    | missing => exact .done fun _ _ _ => rfl
    | other => exact .done fun _ _ _ => rfl
    | blockDevice => exact .done fun _ _ twin => twin

theorem trace_checkBlockDevice (path : Path) :
    (Reformat.checkBlockDevice path).trace scripted host = [] := by
  rw [Reformat.checkBlockDevice, bind_eq, Workflow.request, Workflow.bind, trace_ask_unrecorded rfl]
  dsimp only [Workflow.bind]
  split <;> rfl

/-- A run with a reformat: the path is looked at, the disk is wiped, and the command follows. -/
theorem silent_dispatch_reformat (reformats : request.reformat = true)
    (whole : isWholeDisk p = true) :
    (dispatch settings (request.on p)).silent =
      (Reformat.checkBlockDevice p).silent.bind fun
        | .error failure => done (.error failure)
        | .ok () => (Reformat.wipe p request.dryRun).silent.bind fun
          | .error failure => done (.error failure)
          | .ok () =>
            (perform settings ⟨request.dryRun, true, true⟩ (request.on p).selected).silent := by
  have reformats_on : (request.on p).reformat = true := reformats
  have named : (request.on p).disk = some p := rfl
  have dryRun_on : (request.on p).dryRun = request.dryRun := rfl
  rw [dispatch, bind_eq, silent_bind, silent_reformatFirst reformats_on, named, dryRun_on,
    Reformat.silent_reformat, stem_of_isWholeDisk whole]
  simp only [Reformat.checkBlockDevice, bind_eq, Workflow.request, Workflow.bind, silent, whole,
    if_true]
  congr 1
  funext kind
  cases kind with
  | error cause => rfl
  | ok kind =>
    cases kind with
    | missing => rfl
    | other => rfl
    | blockDevice =>
      simp only [bind_assoc]
      dsimp only [pure_eq, silent, Workflow.bind]
      congr 1
      funext wiped
      cases wiped <;> rfl

theorem silent_wipe_then (disk : Path) (rest : Workflow (Except Failure Text)) :
    ((Reformat.wipe disk false).silent.bind fun
      | .error failure => done (.error failure)
      | .ok () => rest) =
        ask .readMounts (releasing (fun entries => MountEntry.pointsUnder entries disk)
          .partitionMounted (ask (.wipeBootSector disk) fun _ => rest)) := by
  rw [Reformat.silent_wipe]
  simp only [Workflow.bind]
  congr 1
  funext table
  cases table with
  | error cause => rfl
  | ok table =>
    simp only [releasing, bind_assoc]
    congr 1
    funext released
    cases released <;> rfl

theorem dispatch_on_plain (plain : request.reformat = false) (path : Path) :
    dispatch settings (request.on path) =
      perform settings ⟨request.dryRun, request.force, false⟩ (request.on path).selected := by
  have plain_on : (request.on path).reformat = false := plain
  rw [dispatch, reformatFirst_plain plain_on, bind_eq, done_bind]
  rfl

include same whole whole' in
/-- A dry run of a reformat only reads the table. -/
theorem inStep_dispatch_dry (dry : request.dryRun = true) :
    InStep (host.Twin Q) (dispatch settings (request.on p)) (dispatch settings (request.on q))
      SameOutcome := by
  cases reformats : request.reformat with
  | false =>
    rw [dispatch_on_plain reformats, dispatch_on_plain reformats, dry]
    refine inStep_perform same whole whole' ?_
    intro wet
    cases wet
  | true =>
    refine .of_silent ?_
    rw [silent_dispatch_reformat reformats whole, silent_dispatch_reformat reformats whole', dry]
    refine (inStep_checkBlockDevice same).silent.andThen ?_ ?_
    · intro _ _
      rw [Reformat.silent_wipe_dry, Reformat.silent_wipe_dry]
      refine .readMounts fun table table' _ => ?_
      refine (inStep_perform same whole whole' ?_).silent
      intro wet
      cases wet
    · intro failure other outcome
      exact .done fun _ _ _ => outcome

theorem readMounts_not_mem_perform {flags : RunFlags} {command : CommandLine.Command}
    (calm : flags.force = false ∨ ∀ disk, command ≠ .partition disk) :
    Call.readMounts ∉ (perform settings flags command).trace scripted host := by
  intro told
  obtain ⟨m, member, call⟩ := exists_mem_of_mem_trace told
  rcases mem_perform member with reads | ⟨name, -, surveys | ⟨-, surveys⟩⟩ | ⟨path, rfl, asked⟩
  · cases call.symm.trans reads
  · cases call.symm.trans surveys
  · cases call.symm.trans surveys
  · have asks := asks_of_mem_partitionDisk asked
    rw [call] at asks
    cases asks with
    | mounts live forced =>
      rcases calm with unforced | never
      · cases unforced.symm.trans forced
      · exact never path rfl

theorem readMounts_not_mem_prepare (disk : Path) (force reformatted : Bool) :
    Call.readMounts ∉ (prepare settings disk ⟨false, force, reformatted⟩).silent.trace scripted
      host := by
  intro told
  have unread : Call.readMounts ∉ (perform settings ⟨false, false, reformatted⟩
      (.partition disk)).trace scripted host := readMounts_not_mem_perform (Or.inl rfl)
  rw [← trace_silent, silent_perform_partition rfl, trace_bind] at unread
  -- Up to the look at its mounts a run does not depend on force.
  exact unread (List.mem_append_left _ told)

/-- The mount points that a run on the path is to release, by the entries of the table. -/
def lookedUp (request : CommandLine.Request) (path : Path) (entries : List MountEntry) :
    List Path :=
  if request.reformat then MountEntry.pointsUnder entries path
  else formatPoints (partitionPath path Step.systemPartition) entries

/-- After a wipe there is no mount left for a format to release. -/
theorem formatsAgree_cleared {mounts mounts' : Text}
    (cleared : (∀ entry ∈ MountEntry.parseTable mounts, ¬ p.text <+: entry.source) ∧
      ∀ entry ∈ MountEntry.parseTable mounts', ¬ q.text <+: entry.source) :
    FormatsAgree host p q mounts mounts' := by
  rw [FormatsAgree, formatPoints_cleared cleared.1, formatPoints_cleared cleared.2]

include same whole whole' in
theorem reformat_agrees_iff (live : request.dryRun = false) (reformats : request.reformat = true) :
    Agree host (dispatch settings (request.on p)) (dispatch settings (request.on q)) ↔
      (Call.readMounts ∈ (dispatch settings (request.on p)).trace scripted host →
        (host.tried (lookedUp request p host.entries)).map Path.components =
          (host.tried (lookedUp request q host.entries)).map Path.components) := by
  have run : ∀ path, isWholeDisk path = true → (dispatch settings (request.on path)).silent =
      thenRelease (Reformat.checkBlockDevice path).silent
        (fun entries => MountEntry.pointsUnder entries path) .partitionMounted
        (ask (.wipeBootSector path) fun _ =>
          (perform settings ⟨false, true, true⟩ (request.on path).selected).silent) := by
    intro path isWhole
    rw [silent_dispatch_reformat reformats isWhole, live]
    unfold thenRelease
    congr 1
    funext looked
    cases looked with
    | error failure => rfl
    | ok _ => exact silent_wipe_then path _
  have unread : Call.readMounts ∉ (Reformat.checkBlockDevice p).silent.trace scripted host := by
    rw [trace_silent, trace_checkBlockDevice]
    exact List.not_mem_nil
  rw [← agree_silent, ← trace_silent, run p whole, run q whole']
  simp only [lookedUp, reformats, if_true]
  refine agree_iff_of_lookup (inStep_checkBlockDevice same).silent unread
    (MountEntry.covered_pointsUnder p) (MountEntry.covered_pointsUnder q) (fun _ => rfl)
    (fun _ => rfl) ?_
  refine .wipeBootSector fun _ => ?_
  exact (inStep_perform same whole whole' fun _ _ _ _ => formatsAgree_cleared).silent

include same whole whole' in
theorem plain_agrees_iff (live : request.dryRun = false) (plain : request.reformat = false) :
    Agree host (dispatch settings (request.on p)) (dispatch settings (request.on q)) ↔
      (Call.readMounts ∈ (dispatch settings (request.on p)).trace scripted host →
        (host.tried (lookedUp request p host.entries)).map Path.components =
          (host.tried (lookedUp request q host.entries)).map Path.components) := by
  rw [dispatch_on_plain plain, dispatch_on_plain plain, live]
  simp only [lookedUp, plain, Bool.false_eq_true, if_false]
  rcases request.selected_on with partitions | ⟨command, fixed, other⟩
  · rw [partitions, partitions]
    cases forced : request.force with
    | true =>
      have run : ∀ path, (perform settings ⟨false, true, false⟩ (.partition path)).silent =
          thenRelease (prepare settings path ⟨false, true, false⟩).silent
            (formatPoints (partitionPath path Step.systemPartition)) .partitioningFailed
            (formatLast (partitionPath path Step.systemPartition) true) := by
        intro path
        exact silent_perform_partition rfl
      rw [← agree_silent, ← trace_silent, run p, run q]
      exact agree_iff_of_lookup (inStep_prepare same settings whole whole' _).silent
        (readMounts_not_mem_prepare p true false) (MountEntry.covered_pointsOf _)
        (MountEntry.covered_pointsOf _) (fun _ => rfl) (fun _ => rfl) (inStep_formatLast _ _ true)
    | false =>
      have inStep : InStep (AtStart host)
          (perform settings ⟨false, false, false⟩ (.partition p))
          (perform settings ⟨false, false, false⟩ (.partition q)) SameOutcome := by
        refine inStep_perform_partition same settings whole whole' ?_
        intro _ force
        cases force
      exact iff_of_true (agree_of_inStep inStep)
        fun told => absurd told (readMounts_not_mem_perform (Or.inl rfl))
  · rw [fixed, fixed]
    exact iff_of_true (agree_of_inStep (inStep_perform_self settings _ other))
      fun told => absurd told (readMounts_not_mem_perform (Or.inr other))

end runs

/-- Runs on two spellings of a whole disk agree exactly when, unless they are dry runs or never
look at the table of mounts, what they try to release is at the same places. -/
theorem spelling_agrees_iff (settings : Settings) (request : CommandLine.Request)
    (host : ScriptedHost) (p q : Path) (same : p.components = q.components)
    (whole : isWholeDisk p = true) (whole' : isWholeDisk q = true) :
    Agree host (dispatch settings (request.on p)) (dispatch settings (request.on q)) ↔
      (request.dryRun = false →
        Call.readMounts ∈ (dispatch settings (request.on p)).trace scripted host →
        (host.tried (lookedUp request p host.entries)).map Path.components =
          (host.tried (lookedUp request q host.entries)).map Path.components) := by
  cases live : request.dryRun with
  | true =>
    refine iff_of_true (agree_of_inStep (inStep_dispatch_dry same whole whole' live)) ?_
    intro wet
    cases wet
  | false =>
    rw [forall_prop_of_true rfl]
    cases reformats : request.reformat with
    | true => exact reformat_agrees_iff same whole whole' live reformats
    | false => exact plain_agrees_iff same whole whole' live reformats

/-- A disk that is mounted under both of its spellings is reformatted alike under both. -/
theorem both_spellings_agree :
    let host := ScriptedHost.oneDisk "/dev/sda1 /mnt ext4\n/dev//sda1 /mnt/ ext4\n".toList
    let p := ScriptedHost.firstDisk
    let q : Path := ⟨"/dev//sda".toList⟩
    let request := { CommandLine.Request.empty with reformat := true }
    p.components = q.components ∧ isWholeDisk p = true ∧ isWholeDisk q = true ∧
      Agree host (dispatch (Settings.standard []) (request.on p))
        (dispatch (Settings.standard []) (request.on q)) := by
  intro host p q request
  have same : p.components = q.components := by decide +kernel
  have whole : isWholeDisk p = true := by decide
  have whole' : isWholeDisk q = true := by decide
  refine ⟨same, whole, whole', ?_⟩
  refine (spelling_agrees_iff _ request host p q same whole whole').mpr ?_
  intro _ _
  decide +kernel

/-- A mount that cannot be released keeps a disk from being wiped, but not under its other
spelling. -/
theorem other_spelling_wiped :
    let host := { ScriptedHost.empty with
      mounts := "/dev/sda1 /srv ext4 rw 0 0\n".toList
      failures := ⟨none, none, some "umount: /srv: target is busy.".toList, none⟩
      blockDevices := [ScriptedHost.firstDisk] }
    let p := ScriptedHost.firstDisk
    let q : Path := ⟨"/dev//sda".toList⟩
    let request := { CommandLine.Request.empty with reformat := true }
    p.components = q.components ∧ isWholeDisk p = true ∧ isWholeDisk q = true ∧
      ¬ Agree host (dispatch (Settings.standard []) (request.on p))
        (dispatch (Settings.standard []) (request.on q)) := by
  intro host p q request
  refine ⟨by decide +kernel, by decide, by decide, ?_⟩
  rintro ⟨outcomes, -⟩
  have mounted : outcomeOf ((dispatch (Settings.standard []) (request.on p)).run scripted
      host).value = .partitionMounted := by
    decide +kernel
  have unknown : outcomeOf ((dispatch (Settings.standard []) (request.on q)).run scripted
      host).value = .partitioningFailed := by
    decide +kernel
  rw [mounted, unknown] at outcomes
  cases outcomes

end Session

end DiskPrep
