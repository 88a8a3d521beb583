import DiskPrep.Proofs.Session.Dispatch

/-!
Refusals. A path that is no block device, that is no whole disk or whose disk has
partitions is refused before anything is changed, except that a reformat which came first
has been carried out by then: it takes a partition for its disk, the command does not.
-/
namespace DiskPrep

open Workflow

/-- The failure is of a check, not of a step. -/
def Failure.isRefusal : Failure → Bool
  | wrongPath _ | notDisk _ | wrongDisk _ => true
  | _ => false

namespace Reformat

section anyHost

variable {σ : Type} {host : Host σ} {state : σ} {disk path : Path} {dryRun : Bool}
  {failure : Failure}

/-- A wipe fails for its mounts or for their table, never because it refuses the disk. -/
theorem wipe_not_refused (failed : ((wipe disk dryRun).run host state).value = .error failure) :
    failure.isRefusal = false := by
  rw [← (run_silent host _ state).1] at failed
  cases dryRun with
  | true =>
    rw [silent_wipe_dry, run_ask_value] at failed
    split at failed
    · cases failed
      rfl
    · cases failed
  | false =>
    rw [silent_wipe, run_ask_value] at failed
    split at failed
    · cases failed
      rfl
    · rw [run_bind_value] at failed
      split at failed
      · cases failed
        rfl
      · cases failed

/-- A refused reformat of a path has not got past its look at the path. -/
theorem reformat_refused
    (refused : ((reformat (some path) dryRun).run host state).value = .error failure)
    (refusal : failure.isRefusal = true) :
    ¬ ((host.answer (.nodeKind path) state).reply = .ok .blockDevice ∧
        isWholeDisk path.stem = true) ∧
      ∀ m ∈ (reformat (some path) dryRun).history host state, m.call.isChange = false := by
  have only_looked : ∀ reply, ∀ m ∈ [(⟨state, .nodeKind path, reply⟩ : Moment σ)],
      m.call.isChange = false := by
    intro reply m member
    rw [List.mem_singleton.mp member]
    rfl
  rw [← (run_silent host _ state).1, silent_reformat, run_ask_value] at refused
  rw [← history_silent, silent_reformat, history_ask]
  cases looked : (host.answer (.nodeKind path) state).reply with
  | error cause => exact ⟨by simp, only_looked _⟩
  | ok kind =>
    rw [looked] at refused
    cases kind with
    | missing => exact ⟨by simp, only_looked _⟩
    | other => exact ⟨by simp, only_looked _⟩
    | blockDevice =>
      by_cases whole : isWholeDisk path.stem = true
      · simp only [whole, if_true, run_bind_value, run_silent] at refused
        split at refused
        next wiping failed =>
          cases refused
          rw [wipe_not_refused failed] at refusal
          cases refusal
        next => cases refused
      · simp only [whole, Bool.false_eq_true, if_false, history_done]
        exact ⟨by simp, only_looked _⟩

/-- A reformat without a path takes what the report has, and refuses nothing. -/
theorem reformat_none_not_refused
    (failed : ((reformat none dryRun).run host state).value = .error failure) :
    failure.isRefusal = false := by
  rw [reformat, bind_eq, run_bind_value, ← (run_silent host (target none) state).1,
    silent_target_none, run_ask_value, run_done_value] at failed
  split at failed
  next other found => cases found
  next => cases failed
  next =>
    rw [bind_eq, run_bind_value] at failed
    split at failed
    next wiping ended =>
      cases failed
      exact wipe_not_refused ended
    next => cases failed

end anyHost

end Reformat

namespace Session

section anyHost

variable {σ : Type} {host : Host σ} {state : σ} {settings : Settings} {disk : Path}
  {flags : RunFlags} {request : CommandLine.Request} {failure : Failure}

/-- A run that refuses its disk has only checked it. -/
theorem partitionDisk_refused
    (refused : ((partitionDisk settings disk flags).run host state).value = .error failure)
    (refusal : failure.isRefusal = true) :
    ∀ m ∈ (partitionDisk settings disk flags).history host state, m.call.isChange = false := by
  cases checked : ((validate disk flags).run host state).value with
  | error other =>
    rw [(history_partitionDisk_failed settings checked).1]
    intro m member
    exact Call.not_change_of_reads (validate_reads member)
  | ok _ =>
    rw [value_partitionDisk checked] at refused
    split at refused
    · rw [partitionSized, bind_eq, run_bind_value] at refused
      split at refused
      · cases refused
        cases refusal
      · cases refused
    · cases refused
      cases refusal

/-- Only the partitioning of a disk fails, and it asks for nothing else. -/
theorem perform_failed
    (failed : ((perform settings flags request.selected).run host state).value = .error failure) :
    ∃ path, request.selected = .partition path ∧
      ((partitionDisk settings path flags).run host state).value = .error failure ∧
      (perform settings flags request.selected).history host state =
        (partitionDisk settings path flags).history host state := by
  cases chosen : request.selected with
  | partition path =>
    rw [chosen, perform, bind_eq, run_bind_value] at failed
    refine ⟨path, rfl, ?_, ?_⟩
    · cases ended : ((partitionDisk settings path flags).run host state).value with
      | error other =>
        rw [ended] at failed
        cases failed
        rfl
      | ok _ =>
        rw [ended] at failed
        cases failed
    · rw [perform, bind_eq, history_bind]
      exact List.append_nil _
  | list =>
    rw [chosen, perform, bind_eq, run_bind_value] at failed
    cases failed
  | partitions =>
    rw [chosen, perform, bind_eq, run_bind_value] at failed
    cases failed
  | errno code =>
    rw [chosen] at failed
    cases failed
  | help =>
    rw [chosen] at failed
    cases failed

/-- The request's reformat is carried out: it is no dry run, and the path is a block device
that belongs to a whole disk. -/
def Reformats (host : Host σ) (request : CommandLine.Request) (state : σ) : Prop :=
  request.reformat = true ∧ request.dryRun = false ∧
    ∃ path, request.disk = some path ∧
      (host.answer (.nodeKind path) state).reply = .ok .blockDevice ∧
      isWholeDisk path.stem = true

/-- A reformat that is refused has changed nothing. -/
theorem reformatFirst_refused
    (refused : ((reformatFirst request).run host state).value = .error failure)
    (refusal : failure.isRefusal = true) :
    ¬ Reformats host request state ∧
      ∀ m ∈ (reformatFirst request).history host state, m.call.isChange = false := by
  cases reformats : request.reformat with
  | false =>
    rw [reformatFirst_plain reformats] at refused
    cases refused
  | true =>
    rw [← (run_silent host _ state).1, silent_reformatFirst reformats, run_bind_value] at refused
    rw [← history_silent, silent_reformatFirst reformats, history_bind]
    simp only [run_silent, history_silent] at refused ⊢
    split at refused
    next other failed =>
      cases refused
      rw [history_done, List.append_nil]
      cases named : request.disk with
      | none =>
        rw [named] at failed
        rw [Reformat.reformat_none_not_refused failed] at refusal
        cases refusal
      | some path =>
        rw [named] at failed
        obtain ⟨not_accepted, untouched⟩ := Reformat.reformat_refused failed refusal
        refine ⟨?_, untouched⟩
        rintro ⟨-, -, other, same, accepted⟩
        cases named.symm.trans same
        exact not_accepted accepted
    next => cases refused
    next => cases refused

/-- A reformat that was got past has changed something exactly when it was carried out. -/
theorem reformatFirst_untouched_iff {path : Path} (named : request.disk = some path)
    (success : ((reformatFirst request).run host state).value = .ok flags) :
    (∀ m ∈ (reformatFirst request).history host state, m.call.isChange = false) ↔
      ¬ Reformats host request state := by
  obtain ⟨-, wiped, history, -⟩ := reformatFirst_ok named success
  rw [history]
  cases reformats : request.reformat with
  | false => simp [Reformats, reformats]
  | true =>
    obtain ⟨-, whole, looked, ended, -, asked⟩ := Reformat.reformat_ok (wiped reformats)
    rw [if_pos rfl]
    cases live : request.dryRun with
    | true =>
      refine ⟨fun _ carried => ?_, fun _ m member => ?_⟩
      · cases live.symm.trans carried.2.1
      · rcases Reformat.mem_reformat member with reads | ⟨absurdity, -⟩
        · exact Call.not_change_of_reads reads
        · cases absurdity
    | false =>
      have carried : Reformats host request state :=
        ⟨reformats, live, path, named, looked, whole⟩
      refine iff_of_false ?_ fun other => other carried
      intro untouched
      rw [live] at ended asked
      obtain ⟨m, member, wipes⟩ := Reformat.wipe_asked ended
      have changes := untouched m (asked ▸ List.mem_cons_of_mem _ member)
      rw [wipes] at changes
      cases changes

end anyHost

/-- A request that is refused has changed nothing, unless its reformat was carried out. -/
theorem refused_untouched_iff {σ : Type} (host : Host σ) (settings : Settings)
    (request : CommandLine.Request) (state : σ) (failure : Failure)
    (refused : ((dispatch settings request).run host state).value = .error failure)
    (refusal : failure.isRefusal = true) :
    (∀ m ∈ (dispatch settings request).history host state, m.call.isChange = false) ↔
      ¬ Reformats host request state := by
  rw [dispatch, bind_eq, run_bind_value] at refused
  rw [dispatch, bind_eq, history_bind]
  cases first : ((reformatFirst request).run host state).value with
  | error other =>
    rw [first] at refused
    cases refused
    obtain ⟨not_carried, untouched⟩ := reformatFirst_refused first refusal
    simp only [pure_eq, history_done, List.append_nil]
    exact iff_of_true untouched not_carried
  | ok flags =>
    rw [first] at refused
    -- The command is what refuses now. Whether anything was changed was settled before it.
    obtain ⟨path, chosen, failed, asked⟩ := perform_failed refused
    have named := CommandLine.Request.disk_of_selected chosen
    dsimp only
    rw [asked, ← reformatFirst_untouched_iff named first]
    constructor
    · intro untouched m member
      exact untouched m (List.mem_append_left _ member)
    · intro untouched m member
      rcases List.mem_append.mp member with before | after
      · exact untouched m before
      · exact partitionDisk_refused failed refusal m after

/-- A partition that is not to be reformatted is refused, and nothing is changed. -/
theorem plain_partition_untouched :
    let host : ScriptedHost := { ScriptedHost.empty with blockDevices := [⟨"/dev/sda1".toList⟩] }
    let settings := Settings.standard []
    let request : CommandLine.Request :=
      { CommandLine.Request.empty with disk := some ⟨"/dev/sda1".toList⟩ }
    ((dispatch settings request).run scripted host).value = .error (.notDisk "/dev/sda1".toList) ∧
      ∀ m ∈ (dispatch settings request).history scripted host, m.call.isChange = false := by
  intro host settings request
  have refused : ((dispatch settings request).run scripted host).value =
      .error (.notDisk "/dev/sda1".toList) := by
    decide +kernel
  refine ⟨refused, ?_⟩
  refine (refused_untouched_iff scripted settings request host _ refused rfl).mpr ?_
  rintro ⟨reformats, -⟩
  cases reformats

/-- A partition that is to be reformatted is refused after its disk has been wiped. -/
theorem partition_refused_after_wipe :
    let host : ScriptedHost := { ScriptedHost.empty with blockDevices := [⟨"/dev/sda1".toList⟩] }
    let settings := Settings.standard []
    let request : CommandLine.Request :=
      { CommandLine.Request.empty with disk := some ⟨"/dev/sda1".toList⟩, reformat := true }
    ((dispatch settings request).run scripted host).value = .error (.notDisk "/dev/sda1".toList) ∧
      (Failure.notDisk "/dev/sda1".toList).isRefusal = true ∧
      ¬ ∀ m ∈ (dispatch settings request).history scripted host, m.call.isChange = false := by
  intro host settings request
  refine ⟨by decide +kernel, rfl, ?_⟩
  intro untouched
  have wiped : Call.wipeBootSector ScriptedHost.firstDisk ∈
      ((dispatch settings request).history scripted host).map Moment.call := by
    decide +kernel
  obtain ⟨m, member, call⟩ := List.mem_map.mp wiped
  have changes := untouched m member
  rw [call] at changes
  cases changes

end Session

end DiskPrep
