import DiskPrep.Proofs.Disk.Inventory
import DiskPrep.Proofs.Report.DeviceReport
import DiskPrep.Proofs.Session.Listing

/-!
What is found on a host follows from its answer to one read of the report. An answer of no use
gives nothing (`found_of_useless`), any other gives all that its rows name (`disksFound_eq`,
`partitionsFound_eq`); there is nothing in between (`complete_or_empty`).
-/
namespace DiskPrep.Discovery

open Workflow DeviceRow

/-- The answer is of no use: the report could not be read, or a line of it is no row. -/
def Useless (answer : Except HostError Text) : Prop :=
  (∃ cause, answer = .error cause) ∨
    ∃ report, answer = .ok report ∧ ∃ line ∈ rowLines report, ∀ row, ¬ OnLine line row

/-- Rows are known of a report that was read and that fits in every row. -/
theorem rowsOf_eq_ok {answer : Except HostError Text} {rows : List DeviceRow} :
    rowsOf answer = .ok rows ↔ ∃ report, answer = .ok report ∧ parseReport report = .ok rows := by
  cases answer with
  | error cause =>
    constructor
    · intro known
      cases known
    · rintro ⟨report, read, -⟩
      cases read
  | ok report =>
    simp only [rowsOf, Bind.bind, Except.bind]
    cases parsed : parseReport report <;> simp [parsed]

theorem rowsOf_ok_iff {report : Text} {rows : List DeviceRow} :
    rowsOf (.ok report) = .ok rows ↔ List.Forall₂ OnLine (rowLines report) rows := by
  simp [rowsOf_eq_ok, parseReport_eq_ok_iff]

theorem useless_ok_iff {report : Text} : Useless (.ok report) ↔ ¬ Fits report := by
  simp [Useless, Fits]

/-- An answer of no use is one without rows. -/
theorem useless_iff {answer : Except HostError Text} :
    Useless answer ↔ ∃ cause, rowsOf answer = .error cause := by
  cases answer with
  | error cause => exact iff_of_true (Or.inl ⟨cause, rfl⟩) ⟨cause, rfl⟩
  | ok report =>
    rw [useless_ok_iff, Fits, ← exists_rows_iff]
    simp only [← rowsOf_ok_iff]
    cases rowsOf (.ok report) <;> simp

section found

variable {σ : Type}

def disksFound (host : Host σ) (state : σ) (selection : Selection) : List BlockDevice :=
  ((disks selection).run host state).value

def partitionsFound (host : Host σ) (state : σ) (disk : Path) : List PartitionInfo :=
  ((partitions disk).run host state).value

variable {host : Host σ} {state : σ}

theorem disksFound_of_reply (selection : Selection) :
    disksFound host state selection =
      match rowsOf (host.answer .readPartitions state).reply with
      | .ok rows => Inventory.disks rows selection
      | .error _ => [] := by
  rw [disksFound, ← (run_silent host _ state).1, silent_disks, run_ask_value]
  rfl

theorem partitionsFound_of_reply (disk : Path) :
    partitionsFound host state disk =
      match rowsOf (host.answer .readPartitions state).reply with
      | .ok rows => Inventory.partitions rows disk
      | .error _ => [] := by
  rw [partitionsFound, ← (run_silent host _ state).1, silent_partitions, run_ask_value]
  rfl

theorem state_disks (selection : Selection) :
    ((disks selection).run host state).state = (host.answer .readPartitions state).state := by
  rw [← (run_silent host _ state).2, silent_disks]
  rfl

theorem state_partitions (disk : Path) :
    ((partitions disk).run host state).state = (host.answer .readPartitions state).state := by
  rw [← (run_silent host _ state).2, silent_partitions]
  rfl

theorem found_of_useless (useless : Useless (host.answer .readPartitions state).reply) :
    (∀ selection, disksFound host state selection = []) ∧
      ∀ disk, partitionsFound host state disk = [] := by
  obtain ⟨cause, unknown⟩ := useless_iff.mp useless
  constructor
  · intro selection
    rw [disksFound_of_reply, unknown]
  · intro disk
    rw [partitionsFound_of_reply, unknown]

theorem isWhole_of_mem_disksFound {selection : Selection} {device : BlockDevice}
    (found : device ∈ disksFound host state selection) : device.isWhole = true := by
  obtain ⟨name, path, named⟩ := named_of_mem_disks found
  rw [BlockDevice.isWhole, path]
  exact (isWholeDisk_ofDeviceName named).1

variable {rows : List DeviceRow}
  (known : rowsOf (host.answer .readPartitions state).reply = .ok rows)

include known

theorem disksFound_eq (selection : Selection) :
    disksFound host state selection = Inventory.disks rows selection := by
  rw [disksFound_of_reply, known]

theorem partitionsFound_eq (disk : Path) :
    partitionsFound host state disk = Inventory.partitions rows disk := by
  rw [partitionsFound_of_reply, known]

/-- A disk is without a partition in the search for disks when the search for its partitions
gives none. -/
theorem disksFound_unpartitioned :
    disksFound host state .unpartitioned =
      (disksFound host state .all).filter fun device =>
        partitionsFound host state device.path = [] := by
  simp only [disksFound_eq known, partitionsFound_eq known]
  rw [Inventory.disks_unpartitioned, Inventory.disks_all, List.filter_map]
  refine congrArg _ (List.filter_congr ?_)
  intro disk member
  simp [Inventory.partitions_node (of_mem_wholeDisks member)]

end found

/-- Disks and partitions are found completely or not at all. -/
theorem complete_or_empty {σ : Type} (host : Host σ) (state : σ) :
    (Useless (host.answer .readPartitions state).reply →
      (∀ selection, disksFound host state selection = []) ∧
        ∀ disk, partitionsFound host state disk = []) ∧
    (∀ report, (host.answer .readPartitions state).reply = .ok report →
      (∀ line ∈ rowLines report, ∃ row, OnLine line row) →
      ∃ rows, List.Forall₂ OnLine (rowLines report) rows ∧
        disksFound host state .all = (wholeDisks rows).map (fun row => ⟨row.node⟩) ∧
        disksFound host state .unpartitioned =
          ((wholeDisks rows).filter fun disk => ∀ row ∈ rows, ¬ IsNumbered disk.name row.name).map
            (fun row => ⟨row.node⟩) ∧
        ∀ disk, partitionsFound host state disk =
          match disk.baseName? with
          | some name => (partitionsOf rows name).map asPartition
          | none => []) ∧
    (∀ selection, ∀ device ∈ disksFound host state selection, device.isWhole = true) ∧
    disksFound host state .unpartitioned =
      (disksFound host state .all).filter fun device =>
        partitionsFound host state device.path = [] := by
  refine ⟨found_of_useless, ?_, ?_, ?_⟩
  · intro report read fits
    obtain ⟨rows, onLines⟩ := exists_rows_iff.mpr fits
    have known : rowsOf (host.answer .readPartitions state).reply = .ok rows := by
      rw [read]
      exact rowsOf_ok_iff.mpr onLines
    simp only [disksFound_eq known, partitionsFound_eq known]
    refine ⟨rows, onLines, Inventory.disks_all, ?_, ?_⟩
    · simp only [Inventory.disks_unpartitioned, partitionsOf_eq_nil_iff]
    · intro disk
      cases base : disk.baseName? with
      | none => simp only [Inventory.partitions, base]
      | some name => exact Inventory.partitions_eq base
  · intro selection device found
    exact isWhole_of_mem_disksFound found
  · cases known : rowsOf (host.answer .readPartitions state).reply with
    | ok rows => exact disksFound_unpartitioned known
    | error cause =>
      obtain ⟨none_found, -⟩ := found_of_useless (useless_iff.mpr ⟨cause, known⟩)
      rw [none_found, none_found]
      rfl

/-- The partition of a disk may stand before it in the report; a broken line takes all away. -/
theorem interleaved_report_found :
    let report := "major minor  #blocks  name

 8 17 1000 sdb1
 8 0 5000 sda

 65 160 5000 sdaa
 8 16 +2000 sdb
".toList
    let broken := report ++ "8 garbage\n".toList
    let host := { ScriptedHost.empty with partitions := some report }
    let brokenHost := { ScriptedHost.empty with partitions := some broken }
    (∀ line ∈ rowLines report, ∃ row, OnLine line row) ∧ Useless (.ok broken) ∧
      disksFound scripted host .all = [⟨⟨"/dev/sda".toList⟩⟩, ⟨⟨"/dev/sdb".toList⟩⟩] ∧
      disksFound scripted host .unpartitioned = [⟨⟨"/dev/sda".toList⟩⟩] ∧
      disksFound scripted brokenHost .all = [] := by
  intro report broken host brokenHost
  have parsed : parseReport report =
      .ok [⟨8, 17, 1000, "sdb1".toList⟩, ⟨8, 0, 5000, "sda".toList⟩, ⟨65, 160, 5000, "sdaa".toList⟩,
        ⟨8, 16, 2000, "sdb".toList⟩] := by
    decide +kernel
  have fits : ∀ line ∈ rowLines report, ∃ row, OnLine line row :=
    exists_parseReport_ok_iff.mp ⟨_, parsed⟩
  have useless : Useless (.ok broken) :=
    useless_iff.mpr
      ⟨.malformed "/proc/partitions line 8: expected 4 fields, found 2".toList, by decide +kernel⟩
  obtain ⟨-, complete, -⟩ := complete_or_empty scripted host
  obtain ⟨rows, onLines, all, unpartitioned, -⟩ := complete report rfl fits
  obtain rfl := Except.ok.inj ((parseReport_eq_ok_iff.mpr onLines).symm.trans parsed)
  refine ⟨fits, useless, ?_, ?_, ((complete_or_empty scripted brokenHost).1 useless).1 .all⟩
  · rw [all]
    decide
  · rw [unpartitioned]
    decide

end DiskPrep.Discovery
