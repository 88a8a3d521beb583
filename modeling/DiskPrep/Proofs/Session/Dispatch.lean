import DiskPrep.Proofs.Session.Words

/-!
The choice of a command and the reformat before it. What a reformat leaves is known from
its success (`reformatFirst_ok`): the flags of the command, and that the disk was wiped.
A request for the partitioning of a disk is the reformat and then `partitionDisk`.
-/
namespace DiskPrep

open Workflow
open scoped Computability

/-- A request that selects the partitioning of a disk names the disk. -/
theorem CommandLine.Request.disk_of_selected {request : CommandLine.Request} {disk : Path}
    (chosen : request.selected = .partition disk) : request.disk = some disk := by
  unfold selected at chosen
  split at chosen
  · cases chosen
  · split at chosen
    · cases chosen
    · split at chosen
      · cases chosen
      next named =>
        cases chosen
        exact named
      · cases chosen

namespace Session

/-- The flags of the command that a request comes to when its reformat is done. -/
def requestFlags (request : CommandLine.Request) : RunFlags where
  dryRun := request.dryRun
  force := request.force || request.reformat
  reformatted := request.reformat

section anyHost

variable {σ : Type} {host : Host σ} {state : σ} {request : CommandLine.Request} {path : Path}

theorem reformatFirst_reformats (reformats : request.reformat = true) :
    reformatFirst request = (Reformat.reformat request.disk request.dryRun).bind fun
      | .error failure => done (.error failure)
      | .ok none => done (.ok ⟨request.dryRun, true, false⟩)
      | .ok (some disk) =>
        say (.reformatted disk) (done (.ok ⟨request.dryRun, true, true⟩)) := by
  simp only [reformatFirst, reformats, if_true, bind_eq, pure_eq]
  rfl

theorem silent_reformatFirst (reformats : request.reformat = true) :
    (reformatFirst request).silent =
      (Reformat.reformat request.disk request.dryRun).silent.bind fun
        | .error failure => done (.error failure)
        | .ok none => done (.ok ⟨request.dryRun, true, false⟩)
        | .ok (some _) => done (.ok ⟨request.dryRun, true, true⟩) := by
  rw [reformatFirst_reformats reformats, silent_bind]
  congr 1
  funext wiped
  cases wiped with
  | error failure => rfl
  | ok wiped => cases wiped <;> rfl

theorem reformatFirst_plain (plain : request.reformat = false) :
    reformatFirst request = done (.ok ⟨request.dryRun, request.force, false⟩) := by
  simp [reformatFirst, plain]

/-- A reformat leaves a dry run one. -/
theorem dryRun_of_reformatFirst {flags : RunFlags}
    (success : ((reformatFirst request).run host state).value = .ok flags) :
    flags.dryRun = request.dryRun := by
  cases reformats : request.reformat with
  | false =>
    rw [reformatFirst_plain reformats] at success
    cases success
    rfl
  | true =>
    rw [← (run_silent host _ state).1, silent_reformatFirst reformats, run_bind_value] at success
    split at success
    · cases success
    all_goals
      cases success
      rfl

theorem mem_reformat_of_reformatFirst {m : Moment σ}
    (member : m ∈ (reformatFirst request).history host state) :
    request.reformat = true ∧
      m ∈ (Reformat.reformat request.disk request.dryRun).history host state := by
  cases reformats : request.reformat with
  | false =>
    rw [reformatFirst_plain reformats] at member
    exact absurd member List.not_mem_nil
  | true =>
    rw [← history_silent, silent_reformatFirst reformats, history_bind, history_silent] at member
    rcases List.mem_append.mp member with reformatting | member
    · exact ⟨rfl, reformatting⟩
    · split at member <;> exact absurd member List.not_mem_nil

theorem mem_reformatFirst {m : Moment σ}
    (member : m ∈ (reformatFirst request).history host state) :
    m.call.isInvocation = false ∨
      (request.dryRun = false ∧
        ((∃ point, m.call = .unmount point) ∨ ∃ disk, m.call = .wipeBootSector disk)) :=
  Reformat.mem_reformat (mem_reformat_of_reformatFirst member).2

/-- Whoever gets past the reformat of a path has the flags that the request gives. -/
theorem reformatFirst_ok {flags : RunFlags} (named : request.disk = some path)
    (success : ((reformatFirst request).run host state).value = .ok flags) :
    flags = requestFlags request ∧
      (request.reformat = true →
        ((Reformat.reformat (some path) request.dryRun).run host state).value =
          .ok (some path.stem)) ∧
      ((reformatFirst request).history host state =
        if request.reformat then (Reformat.reformat (some path) request.dryRun).history host state
        else []) ∧
      ((reformatFirst request).run host state).state =
        if request.reformat then
          ((Reformat.reformat (some path) request.dryRun).run host state).state
        else state := by
  cases reformats : request.reformat with
  | false =>
    rw [reformatFirst_plain reformats] at success ⊢
    cases success
    refine ⟨?_, ?_, rfl, rfl⟩
    · simp [requestFlags, reformats]
    · intro other
      cases other
  | true =>
    obtain ⟨value, last⟩ := run_silent host (reformatFirst request) state
    rw [← value, silent_reformatFirst reformats, named, run_bind_value] at success
    rw [← last, ← history_silent, silent_reformatFirst reformats, named, run_bind_state,
      history_bind, history_silent]
    simp only [run_silent] at success ⊢
    cases ended : ((Reformat.reformat (some path) request.dryRun).run host state).value with
    | error failure =>
      rw [ended] at success
      cases success
    | ok wiped =>
      obtain ⟨rfl, -⟩ := Reformat.reformat_ok ended
      rw [ended] at success
      cases success
      refine ⟨?_, fun _ => rfl, List.append_nil _, rfl⟩
      simp [requestFlags, reformats]

/-- Whoever gets past a reformat that is no dry run has asked for the wipe of the disk. -/
theorem wipe_asked_of_reformatFirst {flags : RunFlags} (named : request.disk = some path)
    (success : ((reformatFirst request).run host state).value = .ok flags)
    (reformats : request.reformat = true) (live : request.dryRun = false) :
    ∃ m ∈ (reformatFirst request).history host state, m.call = .wipeBootSector path.stem := by
  obtain ⟨-, wiped, asked, -⟩ := reformatFirst_ok named success
  obtain ⟨-, -, -, ended, -, history⟩ := Reformat.reformat_ok (wiped reformats)
  rw [live] at ended
  obtain ⟨m, member, call⟩ := Reformat.wipe_asked ended
  rw [asked, if_pos reformats, history, live]
  exact ⟨m, List.mem_cons_of_mem _ member, call⟩

/-- A request for the partitioning of a disk is its reformat and then the run. -/
theorem dispatch_of_selected {settings : Settings}
    (chosen : request.selected = .partition path) :
    dispatch settings request = (reformatFirst request).bind fun
      | .error failure => done (.error failure)
      | .ok flags => (partitionDisk settings path flags).bind fun ended =>
        done (ended.map fun _ => []) := by
  rw [dispatch, bind_eq]
  congr 1
  funext flags
  cases flags with
  | error failure => rfl
  | ok flags =>
    dsimp only
    rw [chosen]
    rfl

/-- A request to the host is made by the reformat, or by the command after it. -/
theorem mem_dispatch {settings : Settings} {m : Moment σ}
    (member : m ∈ (dispatch settings request).history host state) :
    m ∈ (reformatFirst request).history host state ∨
      ∃ flags, ((reformatFirst request).run host state).value = .ok flags ∧
        m ∈ (perform settings flags request.selected).history host
          ((reformatFirst request).run host state).state := by
  rw [dispatch, bind_eq, history_bind] at member
  rcases List.mem_append.mp member with before | member
  · exact Or.inl before
  · split at member
    · exact absurd member List.not_mem_nil
    next flags success => exact Or.inr ⟨flags, success, member⟩

end anyHost

end Session

end DiskPrep
