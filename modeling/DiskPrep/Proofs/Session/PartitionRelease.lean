import DiskPrep.Proofs.Report.ReleaseOrder
import DiskPrep.Proofs.Session.Lookup
import DiskPrep.Proofs.Session.Steps

/-!
What a forced format releases. By the time the table of mounts is looked at the partitions have
been made, which leaves the table as it was (`preparation_frame`), so what is released are the
mounts that the system partition had at the start: one release for each of its entries, the
deepest first (`forced_format_releases_partition`).
-/
namespace DiskPrep

open Workflow MountEntry

def releaseTargets (requests : List Call) : List Path :=
  requests.filterMap fun
    | .unmount target => some target
    | _ => none

theorem releaseTargets_append (first second : List Call) :
    releaseTargets (first ++ second) = releaseTargets first ++ releaseTargets second :=
  List.filterMap_append

theorem releaseTargets_unmounts (points : List Path) :
    releaseTargets (points.map Call.unmount) = points := by
  rw [releaseTargets, List.filterMap_map]
  exact List.filterMap_some

theorem releaseTargets_eq_nil {requests : List Call}
    (other : ∀ point, Call.unmount point ∉ requests) : releaseTargets requests = [] := by
  rw [releaseTargets, List.filterMap_eq_nil_iff]
  intro call member
  cases call with
  | unmount target => exact absurd member (other target)
  | _ => rfl

namespace Layout

variable {host : ScriptedHost} {disk device : Path} {plan : Plan} {delay : Delay}

/-- Before the mounts are looked at nothing is released or formatted. -/
theorem trace_preparation {call : Call}
    (member : call ∈ (performAll (Step.preparation disk plan delay)).trace scripted host) :
    (∀ point, call ≠ .unmount point) ∧ ∀ device force, call ≠ .formatExt4 device force := by
  obtain ⟨m, asked, rfl⟩ := exists_mem_of_mem_trace member
  obtain ⟨step, listed, asks⟩ := asks_of_mem_performAll asked
  rcases Step.mem_preparation listed asks with call | ⟨freshLabel, bounds, call⟩
  · rw [call]
    exact ⟨fun _ => Call.noConfusion, fun _ _ => Call.noConfusion⟩
  · rw [call]
    exact ⟨fun _ => Call.noConfusion, fun _ _ => Call.noConfusion⟩

/-- Making the partitions leaves the mounts as they were, and the tools that are set to fail. -/
theorem preparation_frame :
    let after := ((performAll (Step.preparation disk plan delay)).run scripted host).state
    after.mounts = host.mounts ∧ after.failures = host.failures := by
  have unreleased : ∀ m ∈ (performAll (Step.preparation disk plan delay)).history scripted host,
      ∀ point, m.call ≠ .unmount point := by
    intro m member point call
    have told : Call.unmount point ∈
        (performAll (Step.preparation disk plan delay)).trace scripted host :=
      List.mem_filter.mpr ⟨List.mem_map.mpr ⟨m, member, call⟩, rfl⟩
    exact (trace_preparation told).1 point rfl
  rw [ScriptedHost.run_unreleased unreleased]
  exact ⟨rfl, rfl⟩

/-- The mounts that are released before a format are tried the deepest first. -/
theorem trace_releaseMounts :
    (releaseMounts device).trace scripted host =
      .readMounts ::
        (host.tried (deepestFirst (pointsOf host.entries device))).map Call.unmount := by
  rw [← trace_silent, silent_releaseMounts, trace_ask_recorded rfl, ScriptedHost.scripted_answer]
  exact congrArg _ trace_releaseEach

/-- The format is asked for when no release failed. -/
theorem trace_releaseThenFormat :
    (performAll [.releaseMounts device, .format device true]).trace scripted host =
      (releaseMounts device).trace scripted host ++
        if ((releaseMounts device).run scripted host).value.isOk
        then [.formatExt4 device true] else [] := by
  rw [performAll, bind_eq, trace_bind, perform]
  congr 1
  cases ((releaseMounts device).run scripted host).value with
  | error cause => rfl
  | ok _ =>
    rw [← trace_silent, silent_performAll_format, trace_ask_recorded rfl]
    split <;> rfl

theorem releaseMounts_fails {output : Text} (fails : host.failures.unmount = some output)
    (mounted : pointsOf host.entries device ≠ []) :
    ((releaseMounts device).run scripted host).value =
      .error (ScriptedHost.failedTool unmountProgram output) := by
  rw [← (run_silent scripted _ host).1, silent_releaseMounts, run_ask_value]
  refine releaseEach_fails fails ?_
  intro none_listed
  exact mounted (deepestFirst_eq_nil_iff.mp none_listed)

section created

variable (created : ((performAll (Step.preparation disk plan delay)).run scripted host).value = .ok ())

include created

/-- Behind the making of its partitions a forced layout releases the mounts of the first, and
formats it. -/
theorem trace_execute_forced :
    ∃ met : ScriptedHost, met.entries = host.entries ∧ met.failures = host.failures ∧
      (execute disk plan ⟨false, true, delay⟩).trace scripted host =
        (performAll (Step.preparation disk plan delay)).trace scripted host ++
          (performAll [.releaseMounts (partitionPath disk Step.systemPartition),
            .format (partitionPath disk Step.systemPartition) true]).trace scripted met := by
  obtain ⟨mounts, failures⟩ := @preparation_frame host disk plan delay
  refine ⟨_, congrArg parseTable mounts, failures, ?_⟩
  simp only [execute, bind_eq, tell_bind, trace_say, Bool.false_eq_true, if_false]
  rw [Step.forPlan_eq, performAll_append, trace_bind, created]
  rfl

theorem releaseTargets_execute :
    releaseTargets ((execute disk plan ⟨false, true, delay⟩).trace scripted host) =
      host.tried (deepestFirst
        (pointsOf host.entries (partitionPath disk Step.systemPartition))) := by
  obtain ⟨met, entries, failures, run⟩ := trace_execute_forced created
  have none_before : releaseTargets
      ((performAll (Step.preparation disk plan delay)).trace scripted host) = [] :=
    releaseTargets_eq_nil fun point member => (trace_preparation member).1 point rfl
  have none_behind : ∀ works : Bool, releaseTargets (if works then
      [.formatExt4 (partitionPath disk Step.systemPartition) true] else []) = [] := by
    intro works
    cases works <;> rfl
  rw [run, trace_releaseThenFormat, trace_releaseMounts, releaseTargets_append,
    releaseTargets_append, none_before, none_behind, List.nil_append, List.append_nil, entries]
  refine (releaseTargets_unmounts _).trans ?_
  rw [ScriptedHost.tried, failures, ScriptedHost.tried]

theorem formatExt4_not_mem_execute {output : Text} (fails : host.failures.unmount = some output)
    (mounted : pointsOf host.entries (partitionPath disk Step.systemPartition) ≠ [])
    (other : Path) (force : Bool) :
    Call.formatExt4 other force ∉
      (execute disk plan ⟨false, true, delay⟩).trace scripted host := by
  obtain ⟨met, entries, failures, run⟩ := trace_execute_forced created
  have stopped : ((releaseMounts (partitionPath disk Step.systemPartition)).run scripted met).value =
      .error (ScriptedHost.failedTool unmountProgram output) :=
    releaseMounts_fails (failures ▸ fails) (entries ▸ mounted)
  rw [run, trace_releaseThenFormat, trace_releaseMounts, stopped]
  intro formats
  rcases List.mem_append.mp formats with before | releases
  · exact (trace_preparation before).2 other force rfl
  · rcases List.mem_cons.mp (List.append_nil _ ▸ releases) with reads | releases
    · cases reads
    · obtain ⟨point, -, call⟩ := List.mem_map.mp releases
      cases call

end created

/-- A forced format releases the mounts of its partition and no others. Once the partitions have
been made, there is one release for each entry whose source is the disk's text and a `1`. They
come the deepest first, so that no mount point is released before one below it, and those of one
depth are in the order of the table. Where releases fail, the first of them is the only one that
is tried, and nothing is formatted. -/
theorem forced_format_releases_partition (host : ScriptedHost) (disk : Path) (plan : Plan)
    (delay : Delay)
    (created : ((performAll (Step.preparation disk plan delay)).run scripted host).value = .ok ()) :
    let requests := (execute disk plan ⟨false, true, delay⟩).trace scripted host
    let mounted := (host.entries.filter fun entry =>
      entry.source = disk.text ++ ['1']).map MountEntry.mountPoint
    ∃ order : List Path, order.Perm mounted ∧
      order.Pairwise (fun p q => q.depth ≤ p.depth) ∧
      order.Pairwise (fun p q => ¬ p.Above q) ∧
      (∀ depth, order.filter (·.depth = depth) = mounted.filter (·.depth = depth)) ∧
      (host.failures.unmount = none → releaseTargets requests = order) ∧
      ∀ output, host.failures.unmount = some output → mounted ≠ [] →
        releaseTargets requests = order.take 1 ∧
          ∀ device force, Call.formatExt4 device force ∉ requests := by
  intro requests mounted
  have points : pointsOf host.entries (partitionPath disk Step.systemPartition) = mounted := by
    have number : decimal Step.systemPartition = ['1'] := by decide
    simp only [pointsOf, mounted, partitionPath, number, beq_eq_decide]
  have targets := releaseTargets_execute created
  rw [points, ScriptedHost.tried] at targets
  refine ⟨deepestFirst mounted, deepestFirst_perm mounted, pairwise_deepestFirst,
    not_above_deepestFirst, filter_depth_deepestFirst, ?_, ?_⟩
  · intro works
    rwa [works] at targets
  · intro output fails some_mounted
    rw [fails] at targets
    exact ⟨targets, formatExt4_not_mem_execute created fails (points ▸ some_mounted)⟩

/-- Mounts of the partition among those of its disk and of its tenth partition: the deepest goes
first, and where it is busy nothing else is tried. -/
theorem nested_mounts_released :
    let table := ("/dev/sda10 /ten/a/b ext4\n/dev/sda1 /media/a ext4\n/dev/sda1 /media/a/b ext4\n" ++
      "/dev/sda /media/a/b/c ext4\n").toList
    let host := ScriptedHost.oneDisk table
    let busy := "target is busy".toList
    let busyHost := { host with failures := ⟨none, none, some busy, none⟩ }
    let disk := ScriptedHost.firstDisk
    let plan := Plan.ofPercent 100 5
    let preparation := performAll (Step.preparation disk plan Delay.zero)
    let layout := execute disk plan ⟨false, true, Delay.zero⟩
    let above : Path := ⟨"/media/a".toList⟩
    let below : Path := ⟨"/media/a/b".toList⟩
    (preparation.run scripted host).value = .ok () ∧
      (preparation.run scripted busyHost).value = .ok () ∧
      releaseTargets (layout.trace scripted host) = [below, above] ∧
      releaseTargets (layout.trace scripted busyHost) = [below] ∧
      ∀ device force, Call.formatExt4 device force ∉ layout.trace scripted busyHost := by
  intro table host busy busyHost disk plan preparation layout above below
  have created : (preparation.run scripted host).value = .ok () := by decide +kernel
  have created' : (preparation.run scripted busyHost).value = .ok () := by decide +kernel
  have mounted : (host.entries.filter fun entry =>
      entry.source = disk.text ++ ['1']).map MountEntry.mountPoint = [above, below] := by
    decide +kernel
  have mounted' : (busyHost.entries.filter fun entry =>
      entry.source = disk.text ++ ['1']).map MountEntry.mountPoint = [above, below] := by
    decide +kernel
  have works : host.failures.unmount = none := rfl
  have fails : busyHost.failures.unmount = some busy := rfl
  -- Of the two orders of the mount points only one has the deeper first.
  have only_order : ∀ order : List Path, order.Perm [above, below] →
      order.Pairwise (fun p q => ¬ p.Above q) → order = [below, above] := by
    intro order rearranged below_first
    rcases List.perm_pair.mp rearranged with rfl | rfl
    · have lies_above : above.Above below := ⟨by decide, by decide⟩
      exact absurd lies_above (List.pairwise_pair.mp below_first)
    · rfl
  obtain ⟨order, rearranged, -, below_first, -, released, -⟩ :=
    forced_format_releases_partition host disk plan Delay.zero created
  obtain ⟨order', rearranged', -, below_first', -, -, stopped⟩ :=
    forced_format_releases_partition busyHost disk plan Delay.zero created'
  rw [mounted] at rearranged
  rw [mounted'] at rearranged' stopped
  obtain ⟨first, unformatted⟩ := stopped busy fails (List.cons_ne_nil _ _)
  rw [only_order order' rearranged' below_first'] at first
  exact ⟨created, created', (released works).trans (only_order order rearranged below_first),
    first, unformatted⟩

end Layout

end DiskPrep
