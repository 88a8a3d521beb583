import DiskPrep.Proofs.Session.Discovery
import DiskPrep.Proofs.Session.Steps

/-!
The checks of a target come before anything that changes the host. The checks are listed
in order (`TargetCheck.order`) and the first that fails is the failure of the run
(`validate_value`); a run that passes them has seen a block device, a whole disk and a
report without a partition of it (`cleared_of_validate`). What follows is asked only
after that, and the layout only after a size above zero.
-/
namespace DiskPrep

open Workflow

/-- The request may change the disks or the mounts of the host. -/
def Call.isChange : Call → Bool
  | unmount _ | wipeBootSector _ | formatExt4 .. => true
  | parted _ script => !script.isQuery
  | _ => false

def Parted.Command.isMakePartition : Parted.Command → Bool
  | makePartition .. => true
  | _ => false

/-- The request makes a partition, releases a mount or formats. -/
def Call.isLayout : Call → Bool
  | unmount _ | formatExt4 .. => true
  | parted _ script => script.commands.any Parted.Command.isMakePartition
  | _ => false

theorem Call.isChange_of_isLayout {call : Call} (layout : call.isLayout = true) :
    call.isChange = true := by
  cases call with
  | parted disk script =>
    obtain ⟨command, member, makes⟩ := List.any_eq_true.mp layout
    have changes : command.isPrint = false := by
      cases command <;> first | rfl | cases makes
    simp only [isChange, Parted.Script.isQuery, Bool.not_eq_true', List.all_eq_false]
    exact ⟨command, member, by simp [changes]⟩
  | unmount _ => rfl
  | formatExt4 _ _ => rfl
  | _ => cases layout

theorem Call.not_change_of_reads {call : Call} (reads : call.isInvocation = false) :
    call.isChange = false := by
  cases call <;> first | rfl | cases reads

namespace Session

/-- All that clears a disk for a change was seen: its path is a block device, it is a whole
disk, and it has just been wiped or the report names no partition of it. -/
structure Cleared {σ : Type} (disk : Path) (flags : RunFlags) (history : List (Moment σ)) :
    Prop where
  blockDevice : Answered history (.nodeKind disk) (.ok .blockDevice)
  whole : isWholeDisk disk = true
  unpartitioned : flags.reformatted = true ∨ ∃ report rows name,
    Answered history .readPartitions (.ok report) ∧ DeviceRow.parseReport report = .ok rows ∧
      disk.baseName? = some name ∧ ∀ row ∈ rows, ¬ IsNumbered name row.name

theorem Cleared.mono {σ : Type} {disk : Path} {flags : RunFlags}
    {history longer : List (Moment σ)} (cleared : Cleared disk flags history)
    (within : history ⊆ longer) : Cleared disk flags longer := by
  obtain ⟨blockDevice, whole, unpartitioned⟩ := cleared
  refine ⟨blockDevice.mono within, whole, ?_⟩
  rcases unpartitioned with wiped | ⟨report, rows, name, read, parsed, base, absent⟩
  · exact Or.inl wiped
  · exact Or.inr ⟨report, rows, name, read.mono within, parsed, base, absent⟩

/-- The survey of a run that partitions a disk: it comes after the checks. -/
def surveyed {σ : Type} (host : Host σ) (disk : Path) (flags : RunFlags) (state : σ) :
    Run σ Geometry :=
  (Survey.survey disk flags.dryRun).run host ((validate disk flags).run host state).state

inductive TargetCheck where
  | pathKind
  | name
  | report
  | partitions
  deriving DecidableEq, Repr

namespace TargetCheck

def order : List TargetCheck := [pathKind, name, report, partitions]

/-- The start of the failure for a report that is of no use. -/
def unreadable : Text := "unable to read partition table: ".toList

/-- The partitions that rows of a report name for a disk, in their order. -/
def existing (rows : List DeviceRow) (name : Text) : List PartitionInfo :=
  (rows.filter fun row => IsNumbered name row.name).map
    fun row => ⟨Path.ofDeviceName row.name, Inventory.sizeOfBlocks row.blocks⟩

/-- Why a disk fails a check, by the kind of its path and the report of block devices. A
disk that has just been wiped is not looked up in the report. -/
def failure? (disk : Path) (flags : RunFlags) (kind : Except HostError NodeKind)
    (report : Except HostError Text) : TargetCheck → Option Failure
  | pathKind => match kind with
    | .ok .blockDevice => none
    | .ok _ => some (.wrongPath disk.text)
    | .error cause => some (.wrongPath (disk.text ++ ": ".toList ++ cause.diagnostic))
  | name => if isWholeDisk disk then none else some (.notDisk disk.text)
  | .report =>
    if flags.reformatted then none
    else match Discovery.rowsOf report with
      | .ok _ => none
      | .error cause => some (.partitioningFailed (unreadable ++ cause.diagnostic))
  | partitions =>
    if flags.reformatted then none
    else match Discovery.rowsOf report, disk.baseName? with
      | .ok rows, some diskName =>
        if existing rows diskName = [] then none
        else some (.wrongDisk (PartitionInfo.listing (existing rows diskName)))
      | _, _ => none

/-- The failure of the first check that fails. -/
def firstFailure? (disk : Path) (flags : RunFlags) (kind : Except HostError NodeKind)
    (report : Except HostError Text) : Option Failure :=
  order.findSome? (failure? disk flags kind report)

end TargetCheck

/-- What the report says of a disk that must have no partition. -/
def reportVerdict (disk : Path) (report : Except HostError Text) : Except Failure Unit :=
  match Discovery.rowsOf report with
  | .error cause => .error (.partitioningFailed (TargetCheck.unreadable ++ cause.diagnostic))
  | .ok rows => match Inventory.partitions rows disk with
    | [] => .ok ()
    | found => .error (.wrongDisk (PartitionInfo.listing found))

theorem silent_validate (disk : Path) (flags : RunFlags) :
    (validate disk flags).silent = ask (.nodeKind disk) fun
      | .ok .blockDevice =>
        if isWholeDisk disk then
          if flags.reformatted then done (.ok ())
          else ask .readPartitions fun report => done (reportVerdict disk report)
        else done (.error (.notDisk disk.text))
      | .ok _ => done (.error (.wrongPath disk.text))
      | .error cause =>
        done (.error (.wrongPath (disk.text ++ ": ".toList ++ cause.diagnostic))) := by
  simp only [validate, Reformat.checkBlockDevice, bind_eq, request, Workflow.bind, silent]
  congr 1
  funext kind
  cases kind with
  | error cause => rfl
  | ok kind =>
    cases kind with
    | missing => rfl
    | other => rfl
    | blockDevice =>
      simp only [pure_eq, done_bind, isPartition]
      cases whole : isWholeDisk disk with
      | false => rfl
      | true =>
        cases wiped : flags.reformatted with
        | true => rfl
        | false =>
          simp only [Bool.not_true, Bool.false_eq_true, if_false, if_true, checkUnpartitioned,
            Discovery.partitions?, Discovery.readRows, bind_eq, pure_eq, request, Workflow.bind,
            silent]
          congr 1
          funext report
          unfold reportVerdict
          cases Discovery.rowsOf report with
          | error cause => rfl
          | ok rows =>
            simp only [Except.map]
            cases Inventory.partitions rows disk <;> rfl

theorem existing_eq {rows : List DeviceRow} {disk : Path} {name : Text}
    (base : disk.baseName? = some name) :
    Inventory.partitions rows disk = TargetCheck.existing rows name := by
  simp only [Inventory.partitions, base, TargetCheck.existing, Inventory.isPartitionOf_eq]

/-- A report clears a disk when its rows name no partition of it. -/
theorem reportVerdict_eq_ok_iff {disk : Path} {answer : Except HostError Text}
    {rows : List DeviceRow} (known : Discovery.rowsOf answer = .ok rows) :
    reportVerdict disk answer = .ok () ↔ Inventory.partitions rows disk = [] := by
  rw [reportVerdict, known]
  dsimp only
  cases Inventory.partitions rows disk <;> simp

/-- A report that clears a disk has no row that is a partition of it. -/
theorem reportVerdict_ok {disk : Path} {name : Text} {answer : Except HostError Text}
    (base : disk.baseName? = some name) (success : reportVerdict disk answer = .ok ()) :
    ∃ rows, Discovery.rowsOf answer = .ok rows ∧ ∀ row ∈ rows, ¬ IsNumbered name row.name := by
  cases known : Discovery.rowsOf answer with
  | error cause =>
    rw [reportVerdict, known] at success
    cases success
  | ok rows =>
    rw [reportVerdict_eq_ok_iff known, Inventory.partitions_eq base, List.map_eq_nil_iff] at success
    exact ⟨rows, rfl, DeviceRow.partitionsOf_eq_nil_iff.mp success⟩

section anyHost

variable {σ : Type} (host : Host σ) (disk : Path) (flags : RunFlags) (state : σ)

/-- The checks end with the failure of the first that fails, or well. -/
theorem validate_value :
    ((validate disk flags).run host state).value =
      match TargetCheck.firstFailure? disk flags (host.answer (.nodeKind disk) state).reply
        (host.answer .readPartitions (host.answer (.nodeKind disk) state).state).reply with
      | some failure => .error failure
      | none => .ok () := by
  rw [← (run_silent host _ state).1, silent_validate, run_ask_value]
  simp only [TargetCheck.firstFailure?, TargetCheck.order, List.findSome?_cons, List.findSome?_nil,
    TargetCheck.failure?]
  generalize (host.answer (.nodeKind disk) state).state = probed
  cases (host.answer (.nodeKind disk) state).reply with
  | error cause => rfl
  | ok kind =>
    cases kind with
    | missing => rfl
    | other => rfl
    | blockDevice =>
      cases whole : isWholeDisk disk with
      | false => rfl
      | true =>
        cases wiped : flags.reformatted with
        | true => rfl
        | false =>
          obtain ⟨diskName, base⟩ := exists_baseName? whole
          simp only [Bool.false_eq_true, if_false, if_true, run_ask_value, run_done_value, base,
            reportVerdict, existing_eq base]
          cases Discovery.rowsOf (host.answer .readPartitions probed).reply with
          | error cause => rfl
          | ok rows =>
            dsimp only
            cases TargetCheck.existing rows diskName with
            | nil => rfl
            | cons first more => rfl

variable {host disk flags state}

theorem mem_validate {m : Moment σ} (member : m ∈ (validate disk flags).history host state) :
    m.call = .nodeKind disk ∨ m.call = .readPartitions := by
  rw [← history_silent, silent_validate, history_ask] at member
  rcases List.mem_cons.mp member with rfl | member
  · exact Or.inl rfl
  · split at member
    · split at member
      · split at member
        · exact absurd member List.not_mem_nil
        · rw [List.mem_singleton.mp member]
          exact Or.inr rfl
      · exact absurd member List.not_mem_nil
    · exact absurd member List.not_mem_nil
    · exact absurd member List.not_mem_nil

theorem validate_reads {m : Moment σ} (member : m ∈ (validate disk flags).history host state) :
    m.call.isInvocation = false := by
  rcases mem_validate member with call | call
  · rw [call]
    rfl
  · rw [call]
    rfl

/-- The checks change nothing and wait for nothing. -/
theorem not_mem_validate {m : Moment σ}
    (changes : m.call.isChange = true ∨ ∃ delay, m.call = .settle delay) :
    m ∉ (validate disk flags).history host state := by
  intro member
  have reads : m.call.isInvocation = false := validate_reads member
  rcases changes with changes | ⟨delay, waits⟩
  · rw [Call.not_change_of_reads reads] at changes
    cases changes
  · rw [waits] at reads
    cases reads

/-- A run of the checks that ends well has seen all that clears a disk. -/
theorem cleared_of_validate (success : ((validate disk flags).run host state).value = .ok ()) :
    Cleared disk flags ((validate disk flags).history host state) := by
  rw [← (run_silent host _ state).1, silent_validate, run_ask_value] at success
  rw [← history_silent, silent_validate, history_ask]
  cases probed : (host.answer (.nodeKind disk) state).reply with
  | error cause =>
    rw [probed] at success
    cases success
  | ok kind =>
    cases kind with
    | missing =>
      rw [probed] at success
      cases success
    | other =>
      rw [probed] at success
      cases success
    | blockDevice =>
      rw [probed] at success
      by_cases whole : isWholeDisk disk = true
      · simp only [whole, if_true] at success ⊢
        refine ⟨⟨state, List.mem_cons_self⟩, whole, ?_⟩
        by_cases wiped : flags.reformatted = true
        · exact Or.inl wiped
        · simp only [wiped, Bool.false_eq_true, if_false, run_ask_value, run_done_value] at success ⊢
          obtain ⟨name, base⟩ := exists_baseName? whole
          obtain ⟨rows, known, absent⟩ := reportVerdict_ok base success
          obtain ⟨report, read, parsed⟩ := Discovery.rowsOf_eq_ok.mp known
          refine Or.inr ⟨report, rows, name,
            ⟨(host.answer (.nodeKind disk) state).state, ?_⟩, parsed, base, absent⟩
          rw [← read]
          exact List.mem_cons_of_mem _ List.mem_cons_self
      · simp [whole] at success

/-- A run whose checks fail ends with their failure. -/
theorem history_partitionDisk_failed (settings : Settings) {failure : Failure}
    (failed : ((validate disk flags).run host state).value = .error failure) :
    (partitionDisk settings disk flags).history host state =
        (validate disk flags).history host state ∧
      ((partitionDisk settings disk flags).run host state).value = .error failure := by
  rw [partitionDisk, bind_eq, history_bind, run_bind_value, failed]
  exact ⟨List.append_nil _, rfl⟩

/-- A run whose checks pass surveys the disk, and goes on if its size is known. -/
theorem history_partitionDisk {settings : Settings}
    (success : ((validate disk flags).run host state).value = .ok ()) :
    (partitionDisk settings disk flags).history host state =
      (validate disk flags).history host state ++
        ((Survey.survey disk flags.dryRun).history host
            ((validate disk flags).run host state).state ++
          if (surveyed host disk flags state).value.isUsable then
            (partitionSized settings disk flags (surveyed host disk flags state).value.total).history
              host (surveyed host disk flags state).state
          else []) := by
  simp only [partitionDisk, bind_eq, history_bind, success]
  congr 2
  unfold surveyed
  split
  · rfl
  · rfl

theorem value_partitionDisk {settings : Settings}
    (success : ((validate disk flags).run host state).value = .ok ()) :
    ((partitionDisk settings disk flags).run host state).value =
      if (surveyed host disk flags state).value.isUsable then
        ((partitionSized settings disk flags (surveyed host disk flags state).value.total).run
          host (surveyed host disk flags state).state).value
      else .error (.partitioningFailed "unable to determine disk size".toList) := by
  rw [partitionDisk, bind_eq, run_bind_value, success, bind_eq, run_bind_value]
  unfold surveyed
  split
  · rfl
  · rfl

section split

variable {settings : Settings} {earlier later : List (Moment σ)} {m : Moment σ}
  (split : (partitionDisk settings disk flags).history host state = earlier ++ m :: later)

include split

/-- Whatever follows a run's checks is asked by a run that has passed them. -/
theorem validate_of_split (not_checking : m ∉ (validate disk flags).history host state) :
    ((validate disk flags).run host state).value = .ok () := by
  cases checked : ((validate disk flags).run host state).value with
  | error failure =>
    rw [(history_partitionDisk_failed settings checked).1] at split
    have member : m ∈ (validate disk flags).history host state := by
      rw [split]
      exact List.mem_append_right earlier List.mem_cons_self
    exact absurd member not_checking
  | ok _ => rfl

/-- What changes the host, or waits, is asked when the disk is cleared. -/
theorem cleared_of_change
    (changes : m.call.isChange = true ∨ ∃ delay, m.call = .settle delay) :
    Cleared disk flags earlier := by
  have not_checking : m ∉ (validate disk flags).history host state := not_mem_validate changes
  have checked := validate_of_split split not_checking
  rw [history_partitionDisk checked] at split
  obtain ⟨between, rfl, -⟩ := split_after split not_checking
  exact (cleared_of_validate checked).mono (List.subset_append_left _ between)

end split

end anyHost

end Session

end DiskPrep
