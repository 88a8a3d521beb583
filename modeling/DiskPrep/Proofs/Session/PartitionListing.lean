import DiskPrep.Host.Faults
import DiskPrep.Proofs.Run.Scripted
import DiskPrep.Proofs.Session.Discovery
import Mathlib.Data.List.Flatten

/-!
The listing of partitions reads the report once for the disks and once more for each of them.
Every read that fails leaves out what it was made for, so what is listed is the disks whose
reads succeeded (`listed_eq`). Each disk is there with all of its partitions or with none, and
the listing as a whole is complete or empty only when the reads go all one way
(`listing_whole_or_empty_iff`).
-/
namespace DiskPrep

open Workflow DeviceRow Discovery

/-- Where each list of a family is part of another, all together are alike only when each is. -/
theorem flatMap_eq_flatMap_iff {α β : Type} {f g : α → List β} {l : List α}
    (part : ∀ x ∈ l, (f x).Sublist (g x)) :
    l.flatMap f = l.flatMap g ↔ ∀ x ∈ l, f x = g x := by
  induction l with
  | nil => simp
  | cons x rest ih =>
    obtain ⟨here, later⟩ := List.forall_mem_cons.mp part
    have rest_part : (rest.flatMap f).Sublist (rest.flatMap g) :=
      List.Sublist.flatMap_right rest later
    rw [List.flatMap_cons, List.flatMap_cons, List.forall_mem_cons, ← ih later]
    constructor
    · intro same
      have lengths := congrArg List.length same
      rw [List.length_append, List.length_append] at lengths
      have := here.length_le
      have := rest_part.length_le
      exact ⟨here.eq_of_length (by omega), rest_part.eq_of_length (by omega)⟩
    · rintro ⟨same, rest_same⟩
      rw [same, rest_same]

/-- The answers to successive reads of the report. -/
def Host.readings {σ : Type} (host : Host σ) : Nat → σ → List (Except HostError Text)
  | 0, _ => []
  | n + 1, state =>
    (host.answer .readPartitions state).reply ::
      host.readings n (host.answer .readPartitions state).state

/-- Whatever reads of the report give is the one text; any of them may fail. -/
def Host.Reports {σ : Type} (host : Host σ) (state : σ) (report : Text) : Prop :=
  ∀ n, ∀ given, .ok given ∈ host.readings n state → given = report

/-- Every read of the report succeeds with the one text. -/
def Host.Gives {σ : Type} (host : Host σ) (state : σ) (report : Text) : Prop :=
  ∀ n, host.readings n state = List.replicate n (.ok report)

/-- The partitions of all whole disks of the report, disk by disk. -/
def DeviceRow.allPartitions (rows : List DeviceRow) : List PartitionInfo :=
  (wholeDisks rows).flatMap fun disk => (partitionsOf rows disk.name).map asPartition

section anyHost

variable {σ : Type} {host : Host σ} {state : σ} {report : Text} {rows : List DeviceRow}

theorem Host.Reports.next (reports : host.Reports state report) :
    host.Reports (host.answer .readPartitions state).state report := by
  intro n given member
  exact reports (n + 1) given (List.mem_cons_of_mem _ member)

theorem Host.Gives.reports (gives : host.Gives state report) : host.Reports state report := by
  intro n given member
  rw [gives n] at member
  exact Except.ok.inj (List.eq_of_mem_replicate member)

/-- A host made to fail still gives no other report. -/
theorem Host.Reports.withFaults (reports : host.Reports state report) (faults : Faults) :
    host.withFaults.Reports (faults, state) report := by
  intro n
  induction n generalizing faults state with
  | zero =>
    intro given member
    exact absurd member List.not_mem_nil
  | succ n ih =>
    intro given member
    rcases List.mem_cons.mp member with here | behind
    · cases front : faults.front? .readPartitions with
      | none =>
        simp only [Host.withFaults, Faults.refusal?, front] at here
        exact reports 1 given (by simp [Host.readings, here])
      | some cause =>
        simp only [Host.withFaults, Faults.refusal?, front] at here
        cases here
    · cases front : faults.front? .readPartitions with
      | none =>
        simp only [Host.withFaults, Faults.refusal?, front] at behind
        exact ih reports.next _ given behind
      | some cause =>
        simp only [Host.withFaults, Faults.refusal?, front] at behind
        exact ih reports _ given behind

end anyHost

theorem ScriptedHost.gives {host : ScriptedHost} {report : Text}
    (script : host.partitions = some report) : scripted.Gives host report := by
  intro n
  induction n generalizing host with
  | zero => rfl
  | succ n ih =>
    have read : (scripted.answer .readPartitions host).reply = .ok report := by
      simp only [scripted_answer, answer, script]
    rw [Host.readings, read, List.replicate_succ]
    exact congrArg _ (@ih (answer .readPartitions host).state script)

theorem ScriptedHost.reports {host : ScriptedHost} {report : Text}
    (script : host.partitions = some report) : scripted.Reports host report :=
  (gives script).reports

namespace Session

section anyHost

variable {σ : Type} {host : Host σ} {state : σ} {report : Text} {rows : List DeviceRow}

def listed (host : Host σ) (state : σ) : Text := (listPartitions.run host state).value

/-- The whole disks of a report, each with the answer to the read that is made for it. -/
def lookups (host : Host σ) (state : σ) (rows : List DeviceRow) :
    List (DeviceRow × Except HostError Text) :=
  (wholeDisks rows).zip
    (host.readings (wholeDisks rows).length (host.answer .readPartitions state).state)

/-- What a lookup adds to the listing: all partitions of its disk, or nothing if its read
failed. -/
def answered (rows : List DeviceRow) (lookup : DeviceRow × Except HostError Text) :
    List PartitionInfo :=
  if lookup.2.isOk then (partitionsOf rows lookup.1.name).map asPartition else []

/-- The partitions that are found of several disks, each in a read of its own. -/
theorem value_partitionsOfAll {disks : List DeviceRow} (named : ∀ disk ∈ disks, disk.IsDisk)
    (reports : host.Reports state report) (known : rowsOf (.ok report) = .ok rows) :
    ((Discovery.partitionsOfAll (disks.map fun disk => ⟨disk.node⟩)).run host state).value =
      (disks.zip (host.readings disks.length state)).flatMap (answered rows) := by
  induction disks generalizing state with
  | nil => rfl
  | cons disk rest ih =>
    obtain ⟨isDisk, named⟩ := List.forall_mem_cons.mp named
    have found : partitionsFound host state disk.node =
        answered rows (disk, (host.answer .readPartitions state).reply) := by
      cases read : (host.answer .readPartitions state).reply with
      | error cause => exact (found_of_useless (Or.inl ⟨cause, read⟩)).2 disk.node
      | ok given =>
        obtain rfl := reports 1 given (by simp [Host.readings, read])
        rw [partitionsFound_eq (by rw [read, known]), Inventory.partitions_node isDisk]
        rfl
    rw [partitionsFound] at found
    rw [List.map_cons, Discovery.partitionsOfAll, bind_eq, run_bind_value, bind_eq, run_bind_value,
      state_partitions, found, ih named reports.next]
    rfl

/-- The listing holds the disks whose reads succeeded. -/
theorem listed_eq (reports : host.Reports state report)
    (read : (host.answer .readPartitions state).reply = .ok report)
    (onLines : List.Forall₂ OnLine (rowLines report) rows) :
    listed host state =
      PartitionInfo.listing ((lookups host state rows).flatMap (answered rows)) := by
  have known : rowsOf (.ok report) = .ok rows := rowsOf_ok_iff.mpr onLines
  have found : ((disks .all).run host state).value =
      (wholeDisks rows).map fun row => ⟨row.node⟩ := by
    rw [← Inventory.disks_all]
    exact disksFound_eq (by rw [read, known]) .all
  rw [listed, listPartitions, bind_eq, run_bind_value, bind_eq, run_bind_value, found, state_disks,
    value_partitionsOfAll (fun _ member => of_mem_wholeDisks member) reports.next known]
  rfl

theorem length_readings (n : Nat) (state : σ) : (host.readings n state).length = n := by
  induction n generalizing state with
  | zero => rfl
  | succ n ih => rw [Host.readings, List.length_cons, ih]

theorem allPartitions_eq (host : Host σ) (state : σ) (rows : List DeviceRow) :
    allPartitions rows = (lookups host state rows).flatMap fun lookup =>
      (partitionsOf rows lookup.1.name).map asPartition := by
  have disks : (lookups host state rows).map Prod.fst = wholeDisks rows :=
    List.map_fst_zip (Nat.le_of_eq (length_readings _ _).symm)
  rw [allPartitions, ← disks, List.flatMap_map]

theorem answered_sublist (lookup : DeviceRow × Except HostError Text) :
    (answered rows lookup).Sublist ((partitionsOf rows lookup.1.name).map asPartition) := by
  rw [answered]
  split
  · exact List.Sublist.refl _
  · exact List.nil_sublist _

theorem answered_eq_all_iff {lookup : DeviceRow × Except HostError Text} :
    answered rows lookup = (partitionsOf rows lookup.1.name).map asPartition ↔
      (partitionsOf rows lookup.1.name ≠ [] → lookup.2.isOk = true) := by
  rw [answered]
  cases lookup.2.isOk with
  | true => simp
  | false =>
    rw [if_neg Bool.false_ne_true, eq_comm]
    simp

theorem answered_eq_nil_iff {lookup : DeviceRow × Except HostError Text} :
    answered rows lookup = [] ↔
      (partitionsOf rows lookup.1.name ≠ [] → lookup.2.isOk = false) := by
  rw [answered]
  cases lookup.2.isOk <;> simp

/-- The listing is complete exactly when no read for a disk with partitions failed. -/
theorem listing_answered_eq_all_iff :
    PartitionInfo.listing ((lookups host state rows).flatMap (answered rows)) =
        PartitionInfo.listing (allPartitions rows) ↔
      ∀ lookup ∈ lookups host state rows,
        partitionsOf rows lookup.1.name ≠ [] → lookup.2.isOk = true := by
  have kept : ((lookups host state rows).flatMap (answered rows)).Sublist (allPartitions rows) := by
    rw [allPartitions_eq host state]
    exact List.Sublist.flatMap_right _ fun lookup _ => answered_sublist lookup
  have same_listing : PartitionInfo.listing ((lookups host state rows).flatMap (answered rows)) =
        PartitionInfo.listing (allPartitions rows) ↔
      (lookups host state rows).flatMap (answered rows) = allPartitions rows :=
    ⟨PartitionInfo.eq_of_listing_eq kept, congrArg _⟩
  rw [same_listing, allPartitions_eq host state,
    flatMap_eq_flatMap_iff fun lookup _ => answered_sublist lookup]
  simp only [answered_eq_all_iff]

/-- The listing is empty exactly when every read for a disk with partitions failed. -/
theorem listing_answered_eq_nil_iff :
    PartitionInfo.listing ((lookups host state rows).flatMap (answered rows)) = [] ↔
      ∀ lookup ∈ lookups host state rows,
        partitionsOf rows lookup.1.name ≠ [] → lookup.2.isOk = false := by
  rw [PartitionInfo.listing_eq_nil_iff, List.flatMap_eq_nil_iff]
  simp only [answered_eq_nil_iff]

/-- The listing of partitions. A report of no use gives the empty one. Otherwise each disk whose
read succeeded is there with all of its partitions, and the listing is that of all partitions or
empty exactly when the reads for the disks that have partitions all succeed or all fail. -/
theorem listing_whole_or_empty_iff (host : Host σ) (state : σ) (report : Text)
    (reports : host.Reports state report) :
    (Useless (host.answer .readPartitions state).reply → listed host state = []) ∧
    ∀ rows, (host.answer .readPartitions state).reply = .ok report →
      List.Forall₂ OnLine (rowLines report) rows →
      listed host state =
          PartitionInfo.listing ((lookups host state rows).flatMap (answered rows)) ∧
        (listed host state = PartitionInfo.listing (allPartitions rows) ∨
            listed host state = [] ↔
          (∀ lookup ∈ lookups host state rows,
              partitionsOf rows lookup.1.name ≠ [] → lookup.2.isOk = true) ∨
            ∀ lookup ∈ lookups host state rows,
              partitionsOf rows lookup.1.name ≠ [] → lookup.2.isOk = false) := by
  constructor
  · intro useless
    have none_found : ((disks .all).run host state).value = [] := (found_of_useless useless).1 .all
    rw [listed, listPartitions, bind_eq, run_bind_value, none_found]
    rfl
  · intro rows read onLines
    have answers := listed_eq reports read onLines
    refine ⟨answers, ?_⟩
    rw [answers, listing_answered_eq_all_iff, listing_answered_eq_nil_iff]

end anyHost

/-- A failing read for a disk without partitions leaves the listing whole, and one at the start
leaves it empty. -/
theorem failed_read_of_blank_disk :
    let report := ("major minor  #blocks  name\n\n 8 0 500107608 sda\n 8 16 250059096 sdb\n" ++
      " 8 17 25000000 sdb1\n").toList
    let rows : List DeviceRow := [⟨8, 0, 500107608, "sda".toList⟩, ⟨8, 16, 250059096, "sdb".toList⟩,
      ⟨8, 17, 25000000, "sdb1".toList⟩]
    let failure := HostError.other "device gone".toList
    let host := { ScriptedHost.empty with partitions := some report }
    let second := Faults.quiet.push .readPartitions [none, some failure]
    let first := Faults.quiet.push .readPartitions [some failure]
    scripted.withFaults.Reports (second, host) report ∧
      scripted.withFaults.Reports (first, host) report ∧
      List.Forall₂ OnLine (rowLines report) rows ∧
      (listed scripted.withFaults (second, host) = PartitionInfo.listing (allPartitions rows) ∨
        listed scripted.withFaults (second, host) = []) ∧
      listed scripted.withFaults (first, host) = [] := by
  intro report rows failure host second first
  have script : host.partitions = some report := rfl
  have reports := (ScriptedHost.reports script).withFaults
  have onLines : List.Forall₂ OnLine (rowLines report) rows :=
    parseReport_eq_ok_iff.mp (by decide +kernel)
  obtain ⟨-, answers⟩ :=
    listing_whole_or_empty_iff scripted.withFaults (second, host) report (reports second)
  obtain ⟨unread, -⟩ :=
    listing_whole_or_empty_iff scripted.withFaults (first, host) report (reports first)
  refine ⟨reports second, reports first, onLines, ?_, unread (Or.inl ⟨failure, rfl⟩)⟩
  refine (answers rows rfl onLines).2.mpr (Or.inl ?_)
  decide +kernel

/-- With the second of three reads failing, the partitions of one disk are missing among those
of all. -/
theorem partial_listing :
    let report := ("major minor  #blocks  name\n\n 8 0 500107608 sda\n 8 1 25000000 sda1\n" ++
      " 8 16 250059096 sdb\n 8 17 1000000 sdb1\n").toList
    let rows : List DeviceRow := [⟨8, 0, 500107608, "sda".toList⟩, ⟨8, 1, 25000000, "sda1".toList⟩,
      ⟨8, 16, 250059096, "sdb".toList⟩, ⟨8, 17, 1000000, "sdb1".toList⟩]
    let faults := Faults.quiet.push .readPartitions [none, some (.other "device gone".toList)]
    let state := (faults, { ScriptedHost.empty with partitions := some report })
    scripted.withFaults.Reports state report ∧
      List.Forall₂ OnLine (rowLines report) rows ∧
      listed scripted.withFaults state = "/dev/sdb1 (1.0 GB)".toList ∧
      ¬ (listed scripted.withFaults state = PartitionInfo.listing (allPartitions rows) ∨
        listed scripted.withFaults state = []) := by
  intro report rows faults state
  refine ⟨(ScriptedHost.reports rfl).withFaults faults, parseReport_eq_ok_iff.mp ?_, ?_, ?_⟩ <;>
    decide +kernel

end Session

end DiskPrep
