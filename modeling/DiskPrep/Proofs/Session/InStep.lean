import DiskPrep.Proofs.Session.Lookup
import DiskPrep.Proofs.Session.PartitionTrace

/-!
The parts of a run on two paths with the same components. A survey and the steps of a layout do
not depend on the path at all, the checks only on its components, so they are in step; what is
left of a partitioning after them (`finish`) looks at the table of mounts when it is forced.
-/
namespace DiskPrep

open Workflow

section inStep

variable {host : ScriptedHost} {Q : Text → Text → Prop} {p q : Path}

theorem Survey.inStep_survey (p q : Path) (dryRun : Bool) :
    InStep (host.Twin Q) (survey p dryRun) (survey q dryRun) (SameValue host Q) := by
  have ended : ∀ geometry : Geometry,
      InStep (host.Twin Q) (.done geometry) (.done geometry) (SameValue host Q) := by
    intro geometry
    exact .done fun _ _ twin => ⟨rfl, twin⟩
  refine .of_silent ?_
  unfold survey
  split
  · rw [silent_probe, silent_probe]
    exact .parted fun reply => ended _
  · rw [silent_inspect, silent_inspect]
    refine .parted fun first => ?_
    cases firstGeometry first with
    | error cause => exact ended _
    | ok geometry =>
      by_cases unlabelled : geometry.needsLabel = true
      · simp only [unlabelled, if_true]
        refine .parted fun written => ?_
        cases written with
        | error cause => exact ended _
        | ok output => exact .parted fun second => ended _
      · simp only [unlabelled, Bool.false_eq_true, if_false]
        exact ended _

/-- The runs both come through a step, or both fail in it. -/
abbrev Layout.BothPerformed {ε ζ : Type} (host : ScriptedHost) (Q : Text → Text → Prop) :
    Except ε Unit → Except ζ Unit → ScriptedHost → ScriptedHost → Prop :=
  Ended (fun _ _ => True) fun _ _ => host.Twin Q

theorem Layout.inStep_performAll {steps others : List Step}
    (each : List.Forall₂ (fun step other => InStep (host.Twin Q) (perform step) (perform other)
      (BothPerformed host Q)) steps others) :
    InStep (host.Twin Q) (performAll steps) (performAll others) (BothPerformed host Q) := by
  induction each with
  | nil => exact .done fun _ _ twin => twin
  | cons here _ ih =>
    refine here.andThen ?_ ?_
    · intro _ _
      exact ih
    · intro cause other _
      exact .of_silent (.done fun _ _ _ => trivial)

theorem Layout.inStep_preparation (p q : Path) (plan : Plan) (delay : Delay) :
    InStep (host.Twin Q) (performAll (Step.preparation p plan delay))
      (performAll (Step.preparation q plan delay)) (BothPerformed host Q) := by
  have makes : ∀ freshLabel bounds,
      InStep (host.Twin Q)
        (.ask (.parted p (Step.partitionScript freshLabel bounds)) fun reply =>
          done (reply.map fun _ => ()))
        (.ask (.parted q (Step.partitionScript freshLabel bounds)) fun reply =>
          done (reply.map fun _ => ()))
        (BothPerformed host Q) := by
    intro freshLabel bounds
    refine .parted fun reply => .done fun _ _ twin => ?_
    cases reply with
    | error cause => trivial
    | ok output => exact twin
  have waits : InStep (host.Twin Q) (perform (.settle delay)) (perform (.settle delay))
      (BothPerformed host Q) := .settle (.done fun _ _ twin => twin)
  refine inStep_performAll ?_
  unfold Step.preparation
  cases plan.rawBounds? with
  | none => exact .cons (makes true _) (.cons waits .nil)
  | some bounds => exact .cons (makes true _) (.cons (makes false _) (.cons waits .nil))

namespace Session

variable (same : p.components = q.components)

include same in
theorem reportVerdict_eq (report : Except HostError Text) :
    reportVerdict p report = reportVerdict q report := by
  have base : p.baseName? = q.baseName? := by
    rw [Path.baseName?, same, Path.baseName?]
  unfold reportVerdict Inventory.partitions
  rw [base]

include same in
theorem inStep_validate (whole : isWholeDisk p = true) (whole' : isWholeDisk q = true)
    (flags : RunFlags) :
    InStep (host.Twin Q) (validate p flags) (validate q flags) (EndAlike host Q) := by
  refine .of_silent ?_
  rw [silent_validate, silent_validate]
  refine .nodeKind same fun kind => ?_
  cases kind with
  | error cause => exact .done fun _ _ _ => rfl
  | ok kind =>
    cases kind with
    | missing => exact .done fun _ _ _ => rfl
    | other => exact .done fun _ _ _ => rfl
    | blockDevice =>
      simp only [whole, whole', if_true]
      cases flags.reformatted with
      | true => exact .done fun _ _ twin => twin
      | false =>
        refine .readPartitions fun report => .done fun _ _ twin => ?_
        rw [reportVerdict_eq same]
        cases reportVerdict q report with
        | error failure => rfl
        | ok _ => exact twin

/-- A run that partitions a disk, up to where its mounts are looked at. -/
def prepare (settings : Settings) (disk : Path) (flags : RunFlags) :
    Workflow (Except Failure Unit) := do
  match ← validate disk flags with
  | .error failure => return .error failure
  | .ok () =>
    let geometry ← Survey.survey disk false
    if geometry.isUsable then
      match ← Layout.performAll (Step.preparation disk
          (Plan.ofPercent geometry.total settings.systemPercent) settings.delay) with
      | .error failure => return .error (.partitioningFailed failure.diagnostic)
      | .ok () => return .ok ()
    else return .error (.partitioningFailed "unable to determine disk size".toList)

def formatLast (device : Path) (force : Bool) : Workflow (Except Failure Text) :=
  ask (.formatExt4 device force) fun
    | .error cause => done (.error (.partitioningFailed cause.diagnostic))
    | .ok () => done (.ok [])

/-- The mount points that the format of a device releases by force. -/
def formatPoints (device : Path) (entries : List MountEntry) : List Path :=
  MountEntry.deepestFirst (MountEntry.pointsOf entries device)

theorem silent_formatLast (device : Path) (force : Bool) :
    ((Layout.performAll [.format device force]).silent.bind fun
      | .error failure => done (.error (.partitioningFailed failure.diagnostic))
      | .ok () => done (.ok [])) = formatLast device force := by
  rw [Layout.silent_performAll_format, formatLast]
  simp only [Workflow.bind]
  congr 1
  funext reply
  cases reply <;> rfl

theorem silent_releaseThenFormat (device : Path) :
    ((Layout.performAll [.releaseMounts device, .format device true]).silent.bind fun
      | .error failure => done (.error (.partitioningFailed failure.diagnostic))
      | .ok () => done (.ok [])) =
        ask .readMounts (releasing (formatPoints device) .partitioningFailed
          (formatLast device true)) := by
  rw [Layout.performAll, bind_eq, silent_bind, Layout.perform, Layout.silent_releaseMounts]
  simp only [Workflow.bind]
  congr 1
  funext table
  cases table with
  | error cause => rfl
  | ok table =>
    simp only [releasing, formatPoints, bind_assoc]
    congr 1
    funext released
    cases released with
    | error cause => rfl
    | ok _ => exact silent_formatLast device true

/-- What is left of a run that partitions a disk when it is prepared: its mounts are released
by force, then it is formatted. -/
def finish (disk : Path) (force : Bool) : Workflow (Except Failure Text) :=
  let device := partitionPath disk Step.systemPartition
  if force then
    ask .readMounts (releasing (formatPoints device) .partitioningFailed (formatLast device true))
  else formatLast device false

theorem silent_partitionSized (settings : Settings) (disk : Path) (force reformatted : Bool)
    (total : Nat) :
    ((partitionSized settings disk ⟨false, force, reformatted⟩ total).silent.bind fun ended =>
        done (ended.map fun _ => ([] : Text))) =
      (Layout.performAll (Step.preparation disk (Plan.ofPercent total settings.systemPercent)
          settings.delay)).silent.bind fun
        | .error failure => done (.error (.partitioningFailed failure.diagnostic))
        | .ok () => finish disk force := by
  simp only [partitionSized, Layout.execute, bind_eq, tell_bind, silent_bind, silent_say,
    Bool.false_eq_true, if_false]
  rw [Step.forPlan_eq, Layout.performAll_append]
  simp only [silent_bind, bind_assoc]
  congr 1
  funext prepared
  cases prepared with
  | error failure => rfl
  | ok _ =>
    cases force with
    | true =>
      refine Eq.trans ?_ (silent_releaseThenFormat _)
      congr 1
      funext formatted
      cases formatted <;> rfl
    | false =>
      refine Eq.trans ?_ (silent_formatLast _ false)
      congr 1
      funext formatted
      cases formatted <;> rfl

theorem silent_perform_partition {settings : Settings} {disk : Path} {flags : RunFlags}
    (wet : flags.dryRun = false) :
    (perform settings flags (.partition disk)).silent =
      (prepare settings disk flags).silent.bind fun
        | .error failure => done (.error failure)
        | .ok () => finish disk flags.force := by
  obtain ⟨dryRun, force, reformatted⟩ := flags
  obtain rfl : dryRun = false := wet
  simp only [perform, partitionDisk, prepare, bind_eq, silent_bind, bind_assoc]
  congr 1
  funext checked
  cases checked with
  | error failure => rfl
  | ok _ =>
    simp only [silent_bind, bind_assoc]
    congr 1
    funext geometry
    by_cases usable : geometry.isUsable = true
    · simp only [usable, if_true]
      refine (silent_partitionSized settings disk force reformatted geometry.total).trans ?_
      simp only [silent_bind, bind_assoc]
      congr 1
      funext prepared
      cases prepared <;> rfl
    · simp only [usable, Bool.false_eq_true, if_false]
      rfl

include same in
theorem inStep_prepare (settings : Settings) (whole : isWholeDisk p = true)
    (whole' : isWholeDisk q = true) (flags : RunFlags) :
    InStep (host.Twin Q) (prepare settings p flags) (prepare settings q flags)
      (EndAlike host Q) := by
  refine (inStep_validate same whole whole' flags).andThen ?_ ?_
  · intro _ _
    refine (Survey.inStep_survey p q false).bindSame ?_
    intro geometry
    by_cases usable : geometry.isUsable = true
    · simp only [usable, if_true]
      refine (Layout.inStep_preparation p q _ _).andThen ?_ ?_
      · intro _ _
        exact .done fun _ _ twin => twin
      · intro failure other _
        exact .done fun _ _ _ => rfl
    · simp only [usable, Bool.false_eq_true, if_false]
      exact .done fun _ _ _ => rfl
  · intro failure other outcome
    exact .done fun _ _ _ => outcome

/-- Neither run fails, or both fail with one outcome. -/
abbrev SameOutcome {α β : Type} (a : Except Failure α) (b : Except Failure β)
    (_ _ : ScriptedHost) : Prop :=
  outcomeOf a = outcomeOf b

theorem inStep_formatLast (device other : Path) (force : Bool) :
    InStep (host.Twin Q) (formatLast device force) (formatLast other force) SameOutcome := by
  refine .formatExt4 fun reply => ?_
  cases reply with
  | error cause => exact .done fun _ _ _ => rfl
  | ok _ => exact .done fun _ _ _ => rfl

/-- What a forced format tries to release is at the same places for both paths. -/
def FormatsAgree (host : ScriptedHost) (p q : Path) (mounts mounts' : Text) : Prop :=
  (host.tried (formatPoints (partitionPath p Step.systemPartition)
      (MountEntry.parseTable mounts))).map Path.components =
    (host.tried (formatPoints (partitionPath q Step.systemPartition)
      (MountEntry.parseTable mounts'))).map Path.components

theorem inStep_finish {force : Bool}
    (agree : force = true → ∀ mounts mounts', Q mounts mounts' →
      FormatsAgree host p q mounts mounts') :
    InStep (host.Twin Q) (finish p force) (finish q force) SameOutcome := by
  cases force with
  | false => exact inStep_formatLast _ _ false
  | true =>
    exact inStep_releasing (MountEntry.covered_pointsOf _) (MountEntry.covered_pointsOf _)
      (agree rfl) (inStep_formatLast _ _ true)

include same in
theorem inStep_partitionDisk_dry (settings : Settings) (whole : isWholeDisk p = true)
    (whole' : isWholeDisk q = true) {flags : RunFlags} (dry : flags.dryRun = true) :
    InStep (host.Twin Q) (partitionDisk settings p flags) (partitionDisk settings q flags)
      (EndAlike host Q) := by
  refine (inStep_validate same whole whole' flags).andThen ?_ ?_
  · intro _ _
    refine (Survey.inStep_survey p q flags.dryRun).bindSame ?_
    intro geometry
    by_cases usable : geometry.isUsable = true
    · simp only [usable, if_true]
      have told : ∀ disk, (partitionSized settings disk flags geometry.total).silent =
          done (.ok ()) := by
        intro disk
        rw [partitionSized, dry, bind_eq, silent_bind, Layout.silent_execute_dry]
        rfl
      refine .of_silent ?_
      rw [told, told]
      exact .done fun _ _ twin => twin
    · simp only [usable, Bool.false_eq_true, if_false]
      exact .done fun _ _ _ => rfl
  · intro failure other outcome
    exact .done fun _ _ _ => outcome

include same in
theorem inStep_perform_partition (settings : Settings) (whole : isWholeDisk p = true)
    (whole' : isWholeDisk q = true) {flags : RunFlags}
    (agree : flags.dryRun = false → flags.force = true → ∀ mounts mounts', Q mounts mounts' →
      FormatsAgree host p q mounts mounts') :
    InStep (host.Twin Q) (perform settings flags (.partition p))
      (perform settings flags (.partition q)) SameOutcome := by
  cases dry : flags.dryRun with
  | true =>
    refine (inStep_partitionDisk_dry same settings whole whole' dry).andThen ?_ ?_
    · intro _ _
      exact .done fun _ _ _ => rfl
    · intro failure other outcome
      exact .done fun _ _ _ => outcome
  | false =>
    refine .of_silent ?_
    rw [silent_perform_partition dry, silent_perform_partition dry]
    refine (inStep_prepare same settings whole whole' flags).silent.andThen ?_ ?_
    · intro _ _
      exact inStep_finish (agree dry)
    · intro failure other outcome
      exact .done fun _ _ _ => outcome

theorem inStep_disks (selection : Selection) :
    InStep (host.Twin Q) (Discovery.disks selection) (Discovery.disks selection)
      (SameValue host Q) := by
  refine .of_silent ?_
  rw [Discovery.silent_disks]
  exact .readPartitions fun report => .done fun _ _ twin => ⟨rfl, twin⟩

theorem inStep_diskLines (settings : Settings) (dryRun : Bool) (devices : List BlockDevice) :
    InStep (host.Twin Q) (diskLines settings dryRun devices) (diskLines settings dryRun devices)
      (SameValue host Q) := by
  induction devices with
  | nil => exact .done fun _ _ twin => ⟨rfl, twin⟩
  | cons device rest ih =>
    refine (Survey.inStep_survey device.path device.path dryRun).bindSame fun geometry => ?_
    exact ih.bindSame fun lines => .done fun _ _ twin => ⟨rfl, twin⟩

theorem inStep_partitionsOfAll (devices : List BlockDevice) :
    InStep (host.Twin Q) (Discovery.partitionsOfAll devices) (Discovery.partitionsOfAll devices)
      (SameValue host Q) := by
  induction devices with
  | nil => exact .done fun _ _ twin => ⟨rfl, twin⟩
  | cons device rest ih =>
    have here : InStep (host.Twin Q) (Discovery.partitions device.path)
        (Discovery.partitions device.path) (SameValue host Q) := by
      refine .of_silent ?_
      rw [Discovery.silent_partitions]
      exact .readPartitions fun report => .done fun _ _ twin => ⟨rfl, twin⟩
    exact here.bindSame fun found => ih.bindSame fun later => .done fun _ _ twin => ⟨rfl, twin⟩

/-- A command that names no disk does not depend on one. -/
theorem inStep_perform_self (settings : Settings) (flags : RunFlags)
    {command : CommandLine.Command} (other : ∀ disk, command ≠ .partition disk) :
    InStep (host.Twin Q) (perform settings flags command) (perform settings flags command)
      SameOutcome := by
  cases command with
  | list =>
    have lists : InStep (host.Twin Q) (listDisks settings flags) (listDisks settings flags)
        (SameValue host Q) :=
      (inStep_disks _).bindSame fun found => inStep_diskLines settings flags.dryRun found
    exact lists.bindSame fun lines => .done fun _ _ _ => rfl
  | partitions =>
    have lists : InStep (host.Twin Q) listPartitions listPartitions (SameValue host Q) :=
      (inStep_disks _).bindSame fun found =>
        (inStep_partitionsOfAll found).bindSame fun all => .done fun _ _ twin => ⟨rfl, twin⟩
    exact lists.bindSame fun listing => .done fun _ _ _ => rfl
  | errno code => exact .done fun _ _ _ => rfl
  | partition disk => exact absurd rfl (other disk)
  | help => exact .done fun _ _ _ => rfl

end Session

end inStep

end DiskPrep
