import DiskPrep.Proofs.Disk.Family
import DiskPrep.Proofs.Session.PartitionListing

/-!
What is listed when no read fails. Each disk of the report is taken with the rows numbered by its
name (`byDisk`). A row belongs to one disk only (`eq_of_isNumbered`), so in a report that names no
device twice none is listed twice (`pairwise_byDisk_distinct`), and where the rows of several
disks alternate those of one disk are brought together (`pairwise_byDisk_order`).
-/
namespace DiskPrep

open Workflow DeviceRow Discovery

namespace DeviceRow

/-- The row is a numbered part of the whole disk. -/
def PartOf (part disk : DeviceRow) : Prop := disk.IsDisk ∧ IsNumbered disk.name part.name

/-- The rows of partitions, taken disk by disk. -/
def byDisk (rows : List DeviceRow) : List DeviceRow :=
  (wholeDisks rows).flatMap fun disk => partitionsOf rows disk.name

/-- The one's disk stands before the other's in the report, or they are of one disk and stand
there in this order themselves. -/
def ListedBefore (rows : List DeviceRow) (part other : DeviceRow) : Prop :=
  ∃ disk otherDisk, part.PartOf disk ∧ other.PartOf otherDisk ∧
    ([disk, otherDisk].Sublist rows ∨ disk = otherDisk ∧ [part, other].Sublist rows)

variable {rows : List DeviceRow} {row disk : DeviceRow}

theorem allPartitions_eq_map_byDisk : allPartitions rows = (byDisk rows).map asPartition := by
  rw [allPartitions, byDisk, List.map_flatMap]

theorem wholeDisks_sublist : (wholeDisks rows).Sublist rows := List.filter_sublist

theorem partitionsOf_sublist (name : Text) : (partitionsOf rows name).Sublist rows :=
  List.filter_sublist

theorem partOf_of_mem (found : disk ∈ wholeDisks rows) (part : row ∈ partitionsOf rows disk.name) :
    row.PartOf disk :=
  ⟨of_mem_wholeDisks found, of_decide_eq_true (List.mem_filter.mp part).2⟩

/-- The rows listed are those whose disk is in the report as well. -/
theorem mem_byDisk_iff : row ∈ byDisk rows ↔ row ∈ rows ∧ ∃ disk ∈ rows, row.PartOf disk := by
  rw [byDisk, List.mem_flatMap]
  constructor
  · rintro ⟨disk, found, part⟩
    exact ⟨(partitionsOf_sublist disk.name).mem part, disk, wholeDisks_sublist.mem found,
      partOf_of_mem found part⟩
  · rintro ⟨inReport, disk, known, isDisk, numbered⟩
    exact ⟨disk, List.mem_filter.mpr ⟨known, decide_eq_true isDisk⟩,
      List.mem_filter.mpr ⟨inReport, decide_eq_true numbered⟩⟩

/-- Distinct names stay distinct in the listing, since no row is part of two disks. -/
theorem pairwise_byDisk_distinct (distinct : (rows.map DeviceRow.name).Nodup) :
    (byDisk rows).Pairwise fun part other => part.name ≠ other.name := by
  have names : rows.Pairwise fun row other => row.name ≠ other.name := List.pairwise_map.mp distinct
  refine List.pairwise_flatMap.mpr ⟨fun disk _ => names.sublist (partitionsOf_sublist _), ?_⟩
  refine (names.sublist wholeDisks_sublist).imp_of_mem ?_
  intro disk otherDisk found otherFound apart part member other otherMember same
  obtain ⟨isDisk, numbered⟩ := partOf_of_mem found member
  obtain ⟨otherIsDisk, otherNumbered⟩ := partOf_of_mem otherFound otherMember
  rw [← same] at otherNumbered
  exact apart (eq_of_isNumbered (isDisk_iff.mp isDisk) (isDisk_iff.mp otherIsDisk) numbered
    otherNumbered)

theorem pairwise_byDisk_order : (byDisk rows).Pairwise (ListedBefore rows) := by
  refine List.pairwise_flatMap.mpr ⟨?_, ?_⟩
  · intro disk found
    refine List.pairwise_iff_forall_sublist.mpr ?_
    intro part other inOrder
    have of_disk : ∀ row ∈ [part, other], row.PartOf disk :=
      fun row member => partOf_of_mem found (inOrder.mem member)
    exact ⟨disk, disk, of_disk part (by simp), of_disk other (by simp),
      Or.inr ⟨rfl, inOrder.trans (partitionsOf_sublist _)⟩⟩
  · refine List.pairwise_iff_forall_sublist.mpr ?_
    intro disk otherDisk inOrder part member other otherMember
    have isDisk : disk ∈ wholeDisks rows := inOrder.mem (by simp)
    have otherIsDisk : otherDisk ∈ wholeDisks rows := inOrder.mem (by simp)
    exact ⟨disk, otherDisk, partOf_of_mem isDisk member, partOf_of_mem otherIsDisk otherMember,
      Or.inl (inOrder.trans wholeDisks_sublist)⟩

end DeviceRow

namespace Session

variable {σ : Type} {host : Host σ} {state : σ} {report : Text} {rows : List DeviceRow}

/-- With every read answered the listing is that of all partitions. -/
theorem listed_of_gives (gives : host.Gives state report)
    (onLines : List.Forall₂ OnLine (rowLines report) rows) :
    listed host state = PartitionInfo.listing (allPartitions rows) := by
  have read : (host.answer .readPartitions state).reply = .ok report := by
    simpa [Host.readings] using gives 1
  rw [listed_eq gives.reports read onLines, listing_answered_eq_all_iff]
  intro lookup member _
  have answers : host.readings (wholeDisks rows).length (host.answer .readPartitions state).state =
      List.replicate (wholeDisks rows).length (.ok report) := by
    simpa [Host.readings, List.replicate_succ, read] using gives ((wholeDisks rows).length + 1)
  have answer : lookup.2 = .ok report := by
    rw [lookups, answers] at member
    exact List.eq_of_mem_replicate (List.of_mem_zip member).2
  rw [answer]
  rfl

/-- Partitions are listed once each, from a report that is read every time, has a row on each of
its lines and names no device twice. The rows listed are those whose disk has a row as well; they
come in the order of the disks, and those of one disk in the order of the report. -/
theorem partitions_listed_once (host : Host σ) (state : σ) (report : Text) (rows : List DeviceRow)
    (gives : host.Gives state report) (onLines : List.Forall₂ OnLine (rowLines report) rows)
    (distinct : (rows.map DeviceRow.name).Nodup) :
    ∃ order : List DeviceRow,
      listed host state = Text.joined [':'] (order.map fun row =>
        "/dev/".toList ++ row.name ++ " (".toList ++
          (Inventory.sizeOfBlocks row.blocks).onePlaceText ++ " GB)".toList) ∧
      (∀ row, row ∈ order ↔ row ∈ rows ∧ ∃ disk ∈ rows, row.PartOf disk) ∧
      (order.map DeviceRow.name).Nodup ∧
      order.Pairwise (ListedBefore rows) := by
  refine ⟨byDisk rows, ?_, fun row => mem_byDisk_iff,
    List.pairwise_map.mpr (pairwise_byDisk_distinct distinct), pairwise_byDisk_order⟩
  rw [listed_of_gives gives onLines, allPartitions_eq_map_byDisk, PartitionInfo.listing,
    List.map_map]
  rfl

/-- Rows of two disks alternate here, one partition stands before its disk, and one has no disk
in the report. -/
theorem interleaved_rows_listed :
    let report := ("major minor  #blocks  name\n\n 8 17 4000000 sdb1\n 8 0 9000000 sda\n" ++
      " 8 2 2000000 sda2\n 8 16 8000000 sdb\n 8 1 1000000 sda1\n 8 33 7000000 sdc1\n").toList
    let rows : List DeviceRow := [⟨8, 17, 4000000, "sdb1".toList⟩, ⟨8, 0, 9000000, "sda".toList⟩,
      ⟨8, 2, 2000000, "sda2".toList⟩, ⟨8, 16, 8000000, "sdb".toList⟩,
      ⟨8, 1, 1000000, "sda1".toList⟩, ⟨8, 33, 7000000, "sdc1".toList⟩]
    let host := { ScriptedHost.empty with partitions := some report }
    scripted.Gives host report ∧
      List.Forall₂ OnLine (rowLines report) rows ∧
      (rows.map DeviceRow.name).Nodup ∧
      listed scripted host =
        "/dev/sda2 (2.0 GB):/dev/sda1 (1.0 GB):/dev/sdb1 (4.0 GB)".toList ∧
      ∃ order : List DeviceRow,
        listed scripted host = Text.joined [':'] (order.map fun row =>
          "/dev/".toList ++ row.name ++ " (".toList ++
            (Inventory.sizeOfBlocks row.blocks).onePlaceText ++ " GB)".toList) ∧
        ∀ row, row ∈ order ↔ row ∈ rows ∧ ∃ disk ∈ rows, row.PartOf disk := by
  intro report rows host
  have gives : scripted.Gives host report := ScriptedHost.gives rfl
  have onLines : List.Forall₂ OnLine (rowLines report) rows :=
    parseReport_eq_ok_iff.mp (by decide +kernel)
  have distinct : (rows.map DeviceRow.name).Nodup := by decide
  have shown : PartitionInfo.listing (allPartitions rows) =
      "/dev/sda2 (2.0 GB):/dev/sda1 (1.0 GB):/dev/sdb1 (4.0 GB)".toList := by
    decide +kernel
  obtain ⟨order, text, members, -⟩ :=
    partitions_listed_once scripted host report rows gives onLines distinct
  exact ⟨gives, onLines, distinct, (listed_of_gives gives onLines).trans shown, order, text,
    members⟩

end Session

end DiskPrep
