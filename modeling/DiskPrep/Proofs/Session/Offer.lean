import DiskPrep.Proofs.Session.TargetChecks

/-!
What a listing offers is what the partition command accepts. The listing goes by the names of
the report's rows, the command by the path of its disk and a read of its own, and both come to
the same answer (`offered_iff_accepted`). A report of no use is where they part: the listing
offers nothing then, and the command refuses every disk.
-/
namespace DiskPrep.Session

open Workflow Discovery DeviceRow ScriptedHost

section verdict

variable {host : ScriptedHost} {disk : Path} {dryRun force : Bool}

/-- On a whole disk that has not been wiped the report has the last word. -/
theorem validate_value_whole (block : host.kindOf disk = .blockDevice)
    (whole : isWholeDisk disk = true) :
    ((validate disk ⟨dryRun, force, false⟩).run scripted host).value =
      reportVerdict disk (scripted.answer .readPartitions host).reply := by
  rw [← (run_silent scripted _ host).1, silent_validate, run_ask_value]
  simp only [scripted_answer, answer, block, whole, if_true]
  rfl

theorem reportVerdict_of_useless {reply : Except HostError Text} (useless : Useless reply) :
    ∃ failure, reportVerdict disk reply = .error failure ∧
      failure.outcome = .partitioningFailed := by
  obtain ⟨cause, unknown⟩ := useless_iff.mp useless
  rw [reportVerdict, unknown]
  exact ⟨_, rfl, rfl⟩

/-- The refusal of a disk names all of its partitions. -/
theorem reportVerdict_of_partitions {reply : Except HostError Text} {rows : List DeviceRow}
    (known : rowsOf reply = .ok rows) (partitioned : Inventory.partitions rows disk ≠ []) :
    ∃ failure, reportVerdict disk reply = .error failure ∧ failure.outcome = .wrongDisk ∧
      failure.detail? = some (PartitionInfo.listing (Inventory.partitions rows disk)) := by
  have verdict : reportVerdict disk reply =
      .error (.wrongDisk (PartitionInfo.listing (Inventory.partitions rows disk))) := by
    rw [reportVerdict, known]
    dsimp only
    split
    next none_left => exact absurd none_left partitioned
    next => rfl
  refine ⟨_, verdict, rfl, ?_⟩
  have shown := mt PartitionInfo.listing_eq_nil_iff.mp partitioned
  simp [Failure.detail?, Failure.subject, shown]

end verdict

/-- A scripted host is of no use when its report is missing or broken. -/
theorem useless_scripted_iff {host : ScriptedHost} :
    Useless (scripted.answer .readPartitions host).reply ↔
      ∀ report, host.partitions = some report → ¬ Fits report := by
  simp only [scripted_answer, answer]
  cases host.partitions with
  | none =>
    refine iff_of_true (Or.inl ⟨_, rfl⟩) ?_
    intro report script
    cases script
  | some report => simp [useless_ok_iff]

/-- No run changes what a scripted host has to say of devices. -/
theorem devices_after_run {α : Type} (w : Workflow α) (host : ScriptedHost) :
    (scripted.answer .readPartitions (w.run scripted host).state).reply =
        (scripted.answer .readPartitions host).reply ∧
      (w.run scripted host).state.kindOf = host.kindOf := by
  rw [run_continues w host]
  exact ⟨rfl, rfl⟩

/-- A disk that is listed is offered exactly when the command accepts it, whatever the host has
been asked in between. -/
theorem offered_iff_accepted (host : ScriptedHost) {α : Type} (between : Workflow α)
    (dryRun force : Bool) :
    let later := (between.run scripted host).state
    let verdict := fun disk => ((validate disk ⟨dryRun, force, false⟩).run scripted later).value
    (∀ report, host.partitions = some report → Fits report →
      (∀ device ∈ disksFound scripted host .all, host.kindOf device.path = .blockDevice) →
      ∀ device ∈ disksFound scripted host .all,
        (device ∈ disksFound scripted host .unpartitioned ↔ verdict device.path = .ok ()) ∧
        (device ∉ disksFound scripted host .unpartitioned →
          ∃ failure, verdict device.path = .error failure ∧ failure.outcome = .wrongDisk ∧
            failure.detail? = some (Text.joined [':']
              ((partitionsFound scripted host device.path).map PartitionInfo.text)))) ∧
    ((∀ report, host.partitions = some report → ¬ Fits report) →
      (∀ selection, disksFound scripted host selection = []) ∧
      ∀ disk, host.kindOf disk = .blockDevice → isWholeDisk disk = true →
        ∃ failure, verdict disk = .error failure ∧ failure.outcome = .partitioningFailed) := by
  intro later verdict
  obtain ⟨sameReport, sameKinds⟩ := devices_after_run between host
  have verdict_eq : ∀ disk, host.kindOf disk = .blockDevice → isWholeDisk disk = true →
      verdict disk = reportVerdict disk (scripted.answer .readPartitions host).reply := by
    intro disk block whole
    rw [← sameReport]
    exact validate_value_whole (sameKinds ▸ block) whole
  constructor
  · intro report script fits registered device listed
    obtain ⟨rows, onLines⟩ := exists_rows_iff.mpr fits
    have known : rowsOf (scripted.answer .readPartitions host).reply = .ok rows := by
      simp only [scripted_answer, answer, script]
      exact rowsOf_ok_iff.mpr onLines
    rw [verdict_eq device.path (registered device listed) (isWhole_of_mem_disksFound listed),
      disksFound_unpartitioned known, List.mem_filter, partitionsFound_eq known,
      reportVerdict_eq_ok_iff known, decide_eq_true_iff]
    refine ⟨and_iff_right listed, ?_⟩
    intro kept_back
    exact reportVerdict_of_partitions known fun free => kept_back ⟨listed, free⟩
  · intro broken
    have useless := useless_scripted_iff.mpr broken
    refine ⟨(found_of_useless useless).1, ?_⟩
    intro disk block whole
    rw [verdict_eq disk block whole]
    exact reportVerdict_of_useless useless

/-- Beside a blank disk a partitioned one is kept back, and refused for what it holds. Without a
report nothing is offered and both are refused. -/
theorem partitioned_disk_kept_back :
    let first : BlockDevice := ⟨⟨"/dev/sda".toList⟩⟩
    let second : BlockDevice := ⟨⟨"/dev/sdb".toList⟩⟩
    let report := ("major minor  #blocks  name\n\n 8 0 500107608 sda\n 8 1 25000000 sda1\n" ++
      " 8 16 250059096 sdb\n 8 2 475107608 sda2\n").toList
    let host := { empty with
      partitions := some report
      blockDevices := [first.path, second.path] }
    let unread := { host with partitions := none }
    let later := (listPartitions.run scripted host).state
    let verdict := fun host (device : BlockDevice) =>
      ((validate device.path ⟨false, false, false⟩).run scripted host).value
    Fits report ∧
      (∀ device ∈ disksFound scripted host .all, host.kindOf device.path = .blockDevice) ∧
      verdict later second = .ok () ∧
      (∃ failure, verdict later first = .error failure ∧ failure.outcome = .wrongDisk ∧
        failure.detail? = some "/dev/sda1 (25.0 GB):/dev/sda2 (475.1 GB)".toList) ∧
      (∀ report, unread.partitions = some report → ¬ Fits report) ∧
      ∃ failure, verdict unread second = .error failure ∧
        failure.outcome = .partitioningFailed := by
  intro first second report host unread later verdict
  have fits : Fits report := by decide +kernel
  have found : disksFound scripted host .all = [first, second] := by decide +kernel
  have offered : disksFound scripted host .unpartitioned = [second] := by decide +kernel
  have partitions : Text.joined [':']
      ((partitionsFound scripted host first.path).map PartitionInfo.text) =
        "/dev/sda1 (25.0 GB):/dev/sda2 (475.1 GB)".toList := by
    decide +kernel
  have registered : ∀ device ∈ disksFound scripted host .all,
      host.kindOf device.path = .blockDevice := by
    rw [found]
    decide +kernel
  obtain ⟨agrees, -⟩ := offered_iff_accepted host listPartitions false false
  obtain ⟨-, refuses⟩ := offered_iff_accepted unread (.done ()) false false
  have unreadable : ∀ report, unread.partitions = some report → ¬ Fits report := by
    intro report script
    cases script
  refine ⟨fits, registered, ?_, ?_, unreadable, ?_⟩
  · exact (agrees report rfl fits registered second (by simp [found])).1.mp (by simp [offered])
  · rw [← partitions]
    exact (agrees report rfl fits registered first (by simp [found])).2
      (by rw [offered]; decide)
  · exact (refuses unreadable).2 second.path (by decide +kernel) (by decide +kernel)

end DiskPrep.Session
