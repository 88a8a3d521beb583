import DiskPrep.Proofs.Session.Survey
import DiskPrep.Session.Command

/-!
What the listings ask. They read the report of block devices, and a listing of disks goes
on to survey the whole disks that the report names (`mem_listDisks`); nothing else on the
host is looked at or changed.
-/
namespace DiskPrep

open Workflow

namespace Discovery

theorem silent_disks (selection : Selection) :
    (disks selection).silent = ask .readPartitions fun report =>
      done (match rowsOf report with
        | .ok rows => Inventory.disks rows selection
        | .error _ => []) := by
  simp only [disks, disks?, readRows, bind_eq, request, Workflow.bind, pure_eq, silent]
  congr 1
  funext report
  cases rowsOf report <;> rfl

theorem silent_partitions (disk : Path) :
    (partitions disk).silent = ask .readPartitions fun report =>
      done (match rowsOf report with
        | .ok rows => Inventory.partitions rows disk
        | .error _ => []) := by
  simp only [partitions, partitions?, readRows, bind_eq, request, Workflow.bind, pure_eq, silent]
  congr 1
  funext report
  cases rowsOf report <;> rfl

section history

variable {σ : Type} {host : Host σ} {state : σ} {m : Moment σ}

theorem mem_disks {selection : Selection}
    (member : m ∈ (disks selection).history host state) : m.call = .readPartitions := by
  rw [← history_silent, silent_disks, history_ask, history_done] at member
  rw [List.mem_singleton.mp member]

/-- A disk that is found has the name of a whole disk. -/
theorem named_of_mem_disks {selection : Selection} {device : BlockDevice}
    (found : device ∈ ((disks selection).run host state).value) :
    ∃ name, device.path = Path.ofDeviceName name ∧ isWholeDiskName name = true := by
  rw [← (run_silent host _ state).1, silent_disks, run_ask_value, run_done_value] at found
  split at found
  next rows known =>
    obtain ⟨row, listed, rfl⟩ := List.mem_map.mp found
    obtain ⟨named, -⟩ := Bool.and_eq_true_iff.mp (List.mem_filter.mp listed).2
    exact ⟨row.name, rfl, named⟩
  next => exact absurd found List.not_mem_nil

theorem mem_partitionsOfAll {devices : List BlockDevice}
    (member : m ∈ (partitionsOfAll devices).history host state) : m.call = .readPartitions := by
  induction devices generalizing state with
  | nil => exact absurd member List.not_mem_nil
  | cons device rest ih =>
    rw [partitionsOfAll, bind_eq, history_bind] at member
    rcases List.mem_append.mp member with here | member
    · rw [← history_silent, silent_partitions, history_ask, history_done] at here
      rw [List.mem_singleton.mp here]
    · rw [bind_eq, history_bind] at member
      rcases List.mem_append.mp member with later | nothing
      · exact ih later
      · exact absurd nothing List.not_mem_nil

end history

end Discovery

namespace Session

section history

variable {σ : Type} {host : Host σ} {state : σ} {m : Moment σ} {settings : Settings}
  {flags : RunFlags}

theorem mem_diskLines {dryRun : Bool} {devices : List BlockDevice}
    (member : m ∈ (diskLines settings dryRun devices).history host state) :
    ∃ device ∈ devices, m.call = .parted device.path Survey.sizeQuery ∨
      (dryRun = false ∧ m.call = .parted device.path Survey.labelScript) := by
  induction devices generalizing state with
  | nil => exact absurd member List.not_mem_nil
  | cons device rest ih =>
    rw [diskLines, bind_eq, history_bind] at member
    rcases List.mem_append.mp member with here | member
    · exact ⟨device, List.mem_cons_self, Survey.mem_survey here⟩
    · rw [bind_eq, history_bind] at member
      rcases List.mem_append.mp member with later | nothing
      · obtain ⟨other, listed, surveyed⟩ := ih later
        exact ⟨other, List.mem_cons_of_mem device listed, surveyed⟩
      · exact absurd nothing List.not_mem_nil

/-- A listing of disks surveys whole disks of the report, and nothing else. -/
theorem mem_listDisks (member : m ∈ (listDisks settings flags).history host state) :
    m.call = .readPartitions ∨ ∃ name, isWholeDiskName name = true ∧
      (m.call = .parted (Path.ofDeviceName name) Survey.sizeQuery ∨
        (flags.dryRun = false ∧
          m.call = .parted (Path.ofDeviceName name) Survey.labelScript)) := by
  rw [listDisks, bind_eq, history_bind] at member
  rcases List.mem_append.mp member with looking | member
  · exact Or.inl (Discovery.mem_disks looking)
  · obtain ⟨device, found, surveyed⟩ := mem_diskLines member
    obtain ⟨name, path, named⟩ := Discovery.named_of_mem_disks found
    rw [path] at surveyed
    exact Or.inr ⟨name, named, surveyed⟩

theorem mem_listPartitions (member : m ∈ listPartitions.history host state) :
    m.call = .readPartitions := by
  rw [listPartitions, bind_eq, history_bind] at member
  rcases List.mem_append.mp member with looking | member
  · exact Discovery.mem_disks looking
  · rw [bind_eq, history_bind] at member
    rcases List.mem_append.mp member with later | nothing
    · exact Discovery.mem_partitionsOfAll later
    · exact absurd nothing List.not_mem_nil

/-- A command reads the report, surveys disks of the report, or partitions the disk that it
was given. -/
theorem mem_perform {command : CommandLine.Command}
    (member : m ∈ (perform settings flags command).history host state) :
    m.call = .readPartitions ∨
      (∃ name, isWholeDiskName name = true ∧
        (m.call = .parted (Path.ofDeviceName name) Survey.sizeQuery ∨
          (flags.dryRun = false ∧
            m.call = .parted (Path.ofDeviceName name) Survey.labelScript))) ∨
      ∃ disk, command = .partition disk ∧
        m ∈ (partitionDisk settings disk flags).history host state := by
  cases command with
  | list =>
    rw [perform, bind_eq, history_bind, pure_eq, history_done, List.append_nil] at member
    rcases mem_listDisks member with reads | surveys
    · exact Or.inl reads
    · exact Or.inr (Or.inl surveys)
  | partitions =>
    rw [perform, bind_eq, history_bind, pure_eq, history_done, List.append_nil] at member
    exact Or.inl (mem_listPartitions member)
  | errno code => exact absurd member List.not_mem_nil
  | partition disk =>
    rw [perform, bind_eq, history_bind, pure_eq, history_done, List.append_nil] at member
    exact Or.inr (Or.inr ⟨disk, rfl, member⟩)
  | help => exact absurd member List.not_mem_nil

end history

end Session

end DiskPrep
