import Mathlib.Data.List.Permutation
import DiskPrep.Proofs.Session.Reformat
import DiskPrep.Proofs.Session.Steps

/-!
Nothing is destroyed under a live mount. A wipe comes after every mount of the disk has
been released (`wipe_meets_no_mount`), a release that fails ends the run before it
(`wipe_failed_release`), and a forced format comes after the mounts of its partition have
been released (`format_meets_no_mount`).
-/
namespace DiskPrep

open Workflow

section anyHost

variable {σ : Type} {host : Host σ} {disk : Path} {state : σ}

/-- A release that fails is the last request of a wipe, which fails with its diagnostic;
the sector is not written. -/
theorem Reformat.wipe_failed_release {earlier later : List (Moment σ)} {met : σ} {point : Path}
    {cause : HostError}
    (split : (wipe disk false).history host state =
      earlier ++ ⟨met, .unmount point, .error cause⟩ :: later) :
    later = [] ∧
      (∀ m ∈ (wipe disk false).history host state, m.call.isWipe = false) ∧
      ((wipe disk false).run host state).value = .error (.partitionMounted cause.diagnostic) := by
  rw [← history_silent, silent_wipe, history_ask] at split
  rw [← history_silent, ← (run_silent host _ state).1, silent_wipe, history_ask, run_ask_value]
  cases read : (host.answer .readMounts state).reply with
  | error other =>
    rw [read] at split
    cases earlier with
    | nil => cases (List.cons.inj split).1
    | cons head earlier => exact absurd (List.cons.inj split).2 (by simp)
  | ok table =>
    rw [read] at split
    cases earlier with
    | nil => cases (List.cons.inj split).1
    | cons head earlier =>
      replace split := (List.cons.inj split).2
      rw [history_bind] at split
      -- What follows the releases releases nothing, so the one that failed is among them.
      obtain ⟨between, releases, rfl⟩ := split_before split (by split <;> simp)
      obtain ⟨rfl, failed⟩ := releaseEach_failed releases
      refine ⟨by simp [failed], ?_, by simp [failed]⟩
      intro m member
      rcases List.mem_cons.mp member with rfl | member
      · rfl
      · simp only [history_bind, failed, history_done, List.append_nil] at member
        obtain ⟨other, -, call⟩ := mem_releaseEach member
        rw [call]
        rfl

end anyHost

/-- The sector is written only when no source of the table begins with the disk's text. -/
theorem Reformat.wipe_meets_no_mount {disk : Path} {host : ScriptedHost} {m : Moment ScriptedHost}
    (member : m ∈ (wipe disk false).history scripted host) (wipes : m.call.isWipe = true) :
    ∀ entry ∈ m.state.entries, ¬ disk.text <+: entry.source := by
  rw [← history_silent, silent_wipe, history_ask] at member
  rcases List.mem_cons.mp member with rfl | member
  · cases wipes
  · simp only [ScriptedHost.scripted_answer, ScriptedHost.answer, history_bind] at member
    rcases List.mem_append.mp member with released | member
    · obtain ⟨point, -, call⟩ := mem_releaseEach released
      rw [call] at wipes
      cases wipes
    · split at member
      next failed => exact absurd member List.not_mem_nil
      next success =>
        rw [history_ask, history_done] at member
        rw [List.mem_singleton.mp member]
        exact releaseEach_clears (MountEntry.covered_pointsUnder disk host.mounts) success

/-- Once a device's mounts have been released its entries are gone. -/
theorem Layout.releaseMounts_clears {device : Path} {host : ScriptedHost}
    (success : ((releaseMounts device).run scripted host).value = .ok ()) :
    ∀ entry ∈ ((releaseMounts device).run scripted host).state.entries,
      entry.source ≠ device.text := by
  obtain ⟨value, state⟩ := run_silent scripted (releaseMounts device) host
  rw [← value, silent_releaseMounts, run_ask_value] at success
  rw [← state, silent_releaseMounts, run_ask_state]
  exact releaseEach_clears (MountEntry.covered_pointsOf device host.mounts) success

/-- A forced format meets a table without an entry of its partition. -/
theorem Layout.format_meets_no_mount {disk : Path} {plan : Plan} {delay : Delay}
    {host : ScriptedHost} {m : Moment ScriptedHost} {device : Path} {force : Bool}
    (member : m ∈ (execute disk plan ⟨false, true, delay⟩).history scripted host)
    (formats : m.call = .formatExt4 device force) :
    ∀ entry ∈ m.state.entries,
      entry.source ≠ (partitionPath disk Step.systemPartition).text := by
  simp only [execute, bind_eq, tell_bind, history_say, Bool.false_eq_true, if_false] at member
  rw [Step.forPlan_eq, if_pos rfl, List.singleton_append, performAll_append, history_bind] at member
  rcases List.mem_append.mp member with before | member
  · obtain ⟨step, listed, asks⟩ := asks_of_mem_performAll before
    rw [formats] at asks
    rcases Step.mem_preparation listed asks with call | ⟨freshLabel, bounds, call⟩
    · cases call
    · cases call
  · split at member
    next success =>
      rw [performAll, bind_eq, history_bind] at member
      rcases List.mem_append.mp member with release | member
      · rcases perform_asks release with call | ⟨point, call⟩
        · cases formats.symm.trans call
        · cases formats.symm.trans call
      · split at member
        next released =>
          rw [performAll, bind_eq, history_bind] at member
          rcases List.mem_append.mp member with here | nothing
          · rw [List.mem_singleton.mp here]
            exact releaseMounts_clears released
          · split at nothing <;> exact absurd nothing List.not_mem_nil
        next => exact absurd member List.not_mem_nil
    next => exact absurd member List.not_mem_nil

/-- Nothing is destroyed under a live mount. A wipe meets a table in which no source begins
with the disk's text; a release that fails ends the wipe's run with the diagnostic, and no
sector is written; a forced format of the system partition meets a table in which it is no
source. -/
theorem nothing_destroyed_under_mount (host : ScriptedHost) (disk : Path) :
    (∀ m ∈ (Reformat.wipe disk false).history scripted host, m.call.isWipe = true →
      ∀ entry ∈ m.state.entries, ¬ disk.text <+: entry.source) ∧
    (∀ earlier met point cause later,
      (Reformat.wipe disk false).history scripted host =
        earlier ++ ⟨met, .unmount point, .error cause⟩ :: later →
      later = [] ∧
        (∀ m ∈ (Reformat.wipe disk false).history scripted host, m.call.isWipe = false) ∧
        ((Reformat.wipe disk false).run scripted host).value =
          .error (.partitionMounted cause.diagnostic)) ∧
    (∀ plan delay,
      ∀ m ∈ (Layout.execute disk plan ⟨false, true, delay⟩).history scripted host,
      ∀ force, m.call = .formatExt4 (partitionPath disk Step.systemPartition) force →
      ∀ entry ∈ m.state.entries,
        entry.source ≠ (partitionPath disk Step.systemPartition).text) := by
  refine ⟨?_, ?_, ?_⟩
  · intro m member wipes
    exact Reformat.wipe_meets_no_mount member wipes
  · intro earlier met point cause later split
    exact Reformat.wipe_failed_release split
  · intro plan delay m member force formats
    exact Layout.format_meets_no_mount member formats

/-- A table with an entry twice, under two spellings of its mount point, with an escape and
with another disk's entry: each mount of the disk is released once, then it is wiped. -/
theorem crowded_table_released :
    let host := ScriptedHost.oneDisk
      ("/dev/sda1 /mnt ext4\n/dev/sda1 /mnt/ ext4\n/dev/sda2 /mnt//b\\040c ext4\n" ++
        "/dev/sdb1 /data ext4\n").toList
    let disk := ScriptedHost.firstDisk
    ((Reformat.wipe disk false).history scripted host).map Moment.call =
        [.readMounts, .unmount ⟨"/mnt//b c".toList⟩, .unmount ⟨"/mnt".toList⟩,
          .wipeBootSector disk] ∧
      ∀ m ∈ (Reformat.wipe disk false).history scripted host, m.call.isWipe = true →
        ∀ entry ∈ m.state.entries, ¬ disk.text <+: entry.source := by
  refine ⟨by decide_cbv, ?_⟩
  exact (nothing_destroyed_under_mount _ _).1

end DiskPrep
