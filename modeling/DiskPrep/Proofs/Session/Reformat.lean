import DiskPrep.Proofs.Disk.Name
import DiskPrep.Proofs.Run.Grammar
import DiskPrep.Proofs.Session.Listing
import DiskPrep.Proofs.Session.Release

/-!
What a reformat asks. A wipe reads the table of mounts, releases what it tells of and
writes the sector, in this order (`follows_wipe`); a dry run only reads. A requested
partition stands for its disk, and nothing is asked for a path that is no block device.
-/
namespace DiskPrep

open Workflow
open scoped Computability

namespace Reformat

/-- A wipe: the table is read, what it tells of is released, the sector is written. Only
a release that fails keeps the wipe from being asked for. -/
theorem silent_wipe (disk : Path) :
    (wipe disk false).silent = ask .readMounts fun
      | .error cause => done (.error (.partitioningFailed cause.diagnostic))
      | .ok table =>
        (releaseEach (MountEntry.pointsUnder (MountEntry.parseTable table) disk)).bind fun
          | .error cause => done (.error (.partitionMounted cause.diagnostic))
          | .ok () => ask (.wipeBootSector disk) fun _ => done (.ok ()) := by
  simp only [wipe, bind_eq, request, Workflow.bind, silent]
  congr 1
  funext table
  cases table with
  | error cause => rfl
  | ok table =>
    simp only [silent_bind, silent_releaseAll, bind_assoc, done_bind]
    congr 1
    funext answer
    cases answer with
    | error cause => rfl
    | ok _ =>
      simp only [Except.mapError, wipeSector, Bool.false_eq_true, if_false, bind_eq,
        tell_bind, request, Workflow.bind, silent]
      congr 1
      funext reply
      cases reply <;> rfl

theorem silent_releaseAll_dry (points : List Path) :
    (releaseAll true points).silent = done (.ok ()) := by
  induction points with
  | nil => rfl
  | cons point rest ih => exact ih

/-- A dry run of a wipe only reads the table. -/
theorem silent_wipe_dry (disk : Path) :
    (wipe disk true).silent = ask .readMounts fun
      | .error cause => done (.error (.partitioningFailed cause.diagnostic))
      | .ok _ => done (.ok ()) := by
  simp only [wipe, bind_eq, request, Workflow.bind, silent]
  congr 1
  funext table
  cases table with
  | error cause => rfl
  | ok table =>
    simp only [silent_bind, silent_releaseAll_dry, done_bind]
    rfl

/-- The request for a path: a block device is looked up, and its disk is the target. -/
theorem silent_target (path : Path) :
    (target (some path)).silent = ask (.nodeKind path) fun
      | .ok .blockDevice =>
        if isWholeDisk path.stem then done (.ok (some path.stem))
        else done (.error (.notDisk path.text))
      | .ok _ => done (.error (.wrongPath path.text))
      | .error cause =>
        done (.error (.wrongPath (path.text ++ ": ".toList ++ cause.diagnostic))) := by
  simp only [target, checkBlockDevice, bind_eq, request, Workflow.bind, silent]
  congr 1
  funext kind
  cases kind with
  | error cause => rfl
  | ok kind =>
    cases kind with
    | missing => rfl
    | other => rfl
    | blockDevice =>
      simp only [pure_eq, done_bind, parentDisk?_eq]
      by_cases whole : isWholeDisk path.stem = true
      · simp [whole]
      · simp [whole]

/-- Without a request the target is the first disk of the report, if one is known. -/
theorem silent_target_none :
    (target none).silent = ask .readPartitions fun report =>
      done (.ok (match Discovery.rowsOf report with
        | .ok rows => (Inventory.disks rows .all).head?.map BlockDevice.path
        | .error _ => none)) := by
  simp only [target, Discovery.disks, Discovery.disks?, Discovery.readRows, bind_eq, request,
    Workflow.bind, pure_eq, silent]
  congr 1
  funext report
  cases Discovery.rowsOf report <;> rfl

/-- The reformat of a path: the path is looked at, then its disk is wiped. -/
theorem silent_reformat (path : Path) (dryRun : Bool) :
    (reformat (some path) dryRun).silent = ask (.nodeKind path) fun
      | .ok .blockDevice =>
        if isWholeDisk path.stem then
          (wipe path.stem dryRun).silent.bind fun
            | .error failure => done (.error failure)
            | .ok () => done (.ok (some path.stem))
        else done (.error (.notDisk path.text))
      | .ok _ => done (.error (.wrongPath path.text))
      | .error cause =>
        done (.error (.wrongPath (path.text ++ ": ".toList ++ cause.diagnostic))) := by
  simp only [reformat, bind_eq, silent_bind, silent_target, Workflow.bind]
  congr 1
  funext kind
  cases kind with
  | error cause => rfl
  | ok kind =>
    cases kind with
    | missing => rfl
    | other => rfl
    | blockDevice =>
      by_cases whole : isWholeDisk path.stem = true
      · simp only [whole, if_true, done_bind, silent_bind]
        congr 1
        funext wiped
        cases wiped <;> rfl
      · simp [whole]

section anyHost

variable {σ : Type} {host : Host σ} {state : σ}

theorem mem_wipe {disk : Path} {dryRun : Bool} {m : Moment σ}
    (member : m ∈ (wipe disk dryRun).history host state) :
    m.call = .readMounts ∨
      (dryRun = false ∧ ((∃ point, m.call = .unmount point) ∨ m.call = .wipeBootSector disk)) := by
  cases dryRun with
  | true =>
    rw [← history_silent, silent_wipe_dry, history_ask] at member
    rcases List.mem_cons.mp member with rfl | member
    · exact Or.inl rfl
    · split at member <;> exact absurd member List.not_mem_nil
  | false =>
    rw [← history_silent, silent_wipe, history_ask] at member
    rcases List.mem_cons.mp member with rfl | member
    · exact Or.inl rfl
    · refine Or.inr ⟨rfl, ?_⟩
      split at member
      · exact absurd member List.not_mem_nil
      · rw [history_bind] at member
        rcases List.mem_append.mp member with released | member
        · obtain ⟨point, -, call⟩ := mem_releaseEach released
          exact Or.inl ⟨point, call⟩
        · split at member
          · exact absurd member List.not_mem_nil
          · rw [List.mem_singleton.mp member]
            exact Or.inr rfl

/-- A wipe that ends well has asked for the sector to be written. -/
theorem wipe_asked {disk : Path}
    (success : ((wipe disk false).run host state).value = .ok ()) :
    ∃ m ∈ (wipe disk false).history host state, m.call = .wipeBootSector disk := by
  rw [← (run_silent host _ state).1, silent_wipe, run_ask_value] at success
  rw [← history_silent, silent_wipe, history_ask]
  cases read : (host.answer .readMounts state).reply with
  | error cause =>
    rw [read] at success
    cases success
  | ok table =>
    rw [read] at success
    simp only [run_bind_value, history_bind] at success ⊢
    split at success
    · cases success
    next released =>
      exact ⟨_, List.mem_cons_of_mem _ (List.mem_append_right _ List.mem_cons_self), rfl⟩

/-- The sector is written behind the release of every mount point that the table has led to. -/
theorem wipe_released {disk : Path} {table : Text} {earlier later : List (Moment σ)} {m : Moment σ}
    (read : (host.answer .readMounts state).reply = .ok table)
    (split : (wipe disk false).history host state = earlier ++ m :: later)
    (wipes : m.call.isWipe = true) {point : Path}
    (member : point ∈ MountEntry.pointsUnder (MountEntry.parseTable table) disk) :
    Answered earlier (.unmount point) (.ok ()) := by
  rw [← history_silent, silent_wipe, history_ask, read, history_bind] at split
  cases earlier with
  | nil =>
    rw [← (List.cons.inj split).1] at wipes
    cases wipes
  | cons head earlier =>
    have not_releasing : m ∉ (releaseEach (MountEntry.pointsUnder (MountEntry.parseTable table)
        disk)).history host (host.answer .readMounts state).state := by
      intro releasing
      obtain ⟨other, -, call⟩ := mem_releaseEach releasing
      rw [call] at wipes
      cases wipes
    obtain ⟨between, rfl, rest⟩ := split_after (List.cons.inj split).2 not_releasing
    split at rest
    next => exact absurd rest (by simp)
    next released =>
      refine (releaseEach_answered released member).mono ?_
      intro asked listed
      exact List.mem_cons_of_mem head (List.mem_append_left between listed)

/-- Only mount points that the table has led to are released. -/
theorem point_of_mem_wipe {disk point : Path} {table : Text} {m : Moment σ}
    (read : (host.answer .readMounts state).reply = .ok table)
    (member : m ∈ (wipe disk false).history host state) (call : m.call = .unmount point) :
    point ∈ MountEntry.pointsUnder (MountEntry.parseTable table) disk := by
  rw [← history_silent, silent_wipe, history_ask, read, history_bind] at member
  rcases List.mem_cons.mp member with rfl | member
  · cases call
  · rcases List.mem_append.mp member with releasing | wiping
    · obtain ⟨other, listed, other_call⟩ := mem_releaseEach releasing
      cases call.symm.trans other_call
      exact listed
    · split at wiping
      · exact absurd wiping List.not_mem_nil
      · rw [List.mem_singleton.mp wiping] at call
        cases call

theorem mem_target {requested : Option Path} {m : Moment σ}
    (member : m ∈ (target requested).history host state) : m.call.isInvocation = false := by
  rw [← history_silent] at member
  cases requested with
  | none =>
    rw [silent_target_none, history_ask, history_done] at member
    rw [List.mem_singleton.mp member]
    rfl
  | some path =>
    rw [silent_target, history_ask] at member
    rcases List.mem_cons.mp member with rfl | member
    · rfl
    · split at member
      · split at member <;> exact absurd member List.not_mem_nil
      · exact absurd member List.not_mem_nil
      · exact absurd member List.not_mem_nil

/-- A request of a reformat is made to find its disk, or to wipe the disk that was found. -/
theorem stage_of_mem_reformat {requested : Option Path} {dryRun : Bool} {m : Moment σ}
    (member : m ∈ (reformat requested dryRun).history host state) :
    m ∈ (target requested).history host state ∨
      ∃ disk, ((target requested).run host state).value = .ok (some disk) ∧
        m ∈ (wipe disk dryRun).history host ((target requested).run host state).state := by
  rw [reformat, bind_eq, history_bind] at member
  rcases List.mem_append.mp member with looked | member
  · exact Or.inl looked
  · split at member
    · exact absurd member List.not_mem_nil
    · exact absurd member List.not_mem_nil
    next disk found =>
      rw [bind_eq, history_bind] at member
      rcases List.mem_append.mp member with wiping | member
      · exact Or.inr ⟨disk, found, wiping⟩
      · split at member <;> exact absurd member List.not_mem_nil

/-- A reformat only reads, except that one that is no dry run releases and wipes. -/
theorem mem_reformat {requested : Option Path} {dryRun : Bool} {m : Moment σ}
    (member : m ∈ (reformat requested dryRun).history host state) :
    m.call.isInvocation = false ∨
      (dryRun = false ∧
        ((∃ point, m.call = .unmount point) ∨ ∃ disk, m.call = .wipeBootSector disk)) := by
  rcases stage_of_mem_reformat member with looked | ⟨disk, -, wiping⟩
  · exact Or.inl (mem_target looked)
  · rcases mem_wipe wiping with call | ⟨live, releases | wipes⟩
    · rw [call]
      exact Or.inl rfl
    · exact Or.inr ⟨live, Or.inl releases⟩
    · exact Or.inr ⟨live, Or.inr ⟨disk, wipes⟩⟩

/-- The disk to wipe is that of the requested path, or else one of the report. -/
theorem target_found {requested : Option Path} {disk : Path}
    (found : ((target requested).run host state).value = .ok (some disk)) :
    (∃ path, requested = some path ∧ disk = path.stem ∧ isWholeDisk disk = true) ∨
      (requested = none ∧ ∃ name, disk = Path.ofDeviceName name ∧ isWholeDiskName name = true) := by
  cases requested with
  | none =>
    refine Or.inr ⟨rfl, ?_⟩
    rw [target, bind_eq, run_bind_value, pure_eq, run_done_value, Except.ok.injEq,
      Option.map_eq_some_iff] at found
    obtain ⟨device, first, rfl⟩ := found
    exact Discovery.named_of_mem_disks (List.mem_of_head? first)
  | some path =>
    refine Or.inl ⟨path, rfl, ?_⟩
    rw [← (run_silent host _ state).1, silent_target, run_ask_value] at found
    split at found
    · split at found
      next whole =>
        cases found
        exact ⟨rfl, whole⟩
      next => cases found
    · cases found
    · cases found

/-- A reformat that ends well found a block device of a whole disk and has wiped it. -/
theorem reformat_ok {path : Path} {dryRun : Bool} {wiped : Option Path}
    (success : ((reformat (some path) dryRun).run host state).value = .ok wiped) :
    let probed := (host.answer (.nodeKind path) state).state
    wiped = some path.stem ∧ isWholeDisk path.stem = true ∧
      (host.answer (.nodeKind path) state).reply = .ok .blockDevice ∧
      ((wipe path.stem dryRun).run host probed).value = .ok () ∧
      ((reformat (some path) dryRun).run host state).state =
        ((wipe path.stem dryRun).run host probed).state ∧
      (reformat (some path) dryRun).history host state =
        ⟨state, .nodeKind path, (host.answer (.nodeKind path) state).reply⟩ ::
          (wipe path.stem dryRun).history host probed := by
  intro probed
  obtain ⟨value, last⟩ := run_silent host (reformat (some path) dryRun) state
  rw [← value, silent_reformat, run_ask_value] at success
  rw [← last, ← history_silent, silent_reformat, run_ask_state, history_ask]
  cases found : (host.answer (.nodeKind path) state).reply with
  | error cause =>
    rw [found] at success
    cases success
  | ok kind =>
    rw [found] at success
    cases kind with
    | missing => cases success
    | other => cases success
    | blockDevice =>
      by_cases whole : isWholeDisk path.stem = true
      · simp only [whole, if_true, run_bind_value, run_bind_state, history_bind, history_silent,
          run_silent] at success ⊢
        cases ended : ((wipe path.stem dryRun).run host probed).value with
        | error failure =>
          rw [ended] at success
          cases success
        | ok _ =>
          rw [ended] at success
          cases success
          simp only [history_done, List.append_nil, true_and]
          exact ⟨rfl, rfl⟩
      · simp [whole] at success

end anyHost

/-- Where the tool that releases works, a wipe ends well. -/
theorem wipe_works {disk : Path} {host : ScriptedHost} (works : host.failures.unmount = none) :
    ((wipe disk false).run scripted host).value = .ok () := by
  rw [← (run_silent scripted _ _).1, silent_wipe, run_ask_value]
  simp only [ScriptedHost.scripted_answer, ScriptedHost.answer, run_bind_value]
  have still_works : (host.recording .readMounts).failures.unmount = none := works
  rw [releaseEach_works still_works]
  rfl

end Reformat

end DiskPrep
