import DiskPrep.Proofs.Session.PartitionTrace

/-!
Which disks are written. A disk of the report has the name of a whole disk, but a path that
was given is judged by its last characters: all that is known of a disk that is written is
what its name ends in. A request can write a disk of another name exactly when its path has
more than a slash before these characters (`written_named_iff`).
-/
namespace DiskPrep

open Workflow

/-- The disk whose boot sector or table of partitions the request writes. -/
def Call.written? : Call → Option Path
  | wipeBootSector disk => some disk
  | parted disk script => if script.isQuery then none else some disk
  | _ => none

theorem Call.written?_of_reads {call : Call} (reads : call.isInvocation = false) :
    call.written? = none := by
  cases call <;> first | rfl | cases reads

/-- The request's path leads to the disk, which is reformatted or partitioned. -/
def CommandLine.Request.Writes (request : Request) (disk : Path) : Prop :=
  request.dryRun = false ∧ isWholeDisk disk = true ∧
    ((request.reformat = true ∧ ∃ path, request.disk = some path ∧ path.stem = disk) ∨
      request.selected = .partition disk)

def ScriptedHost.unlabelled (path : Path) : ScriptedHost :=
  { empty with
    replies := [.printed "BYT;\n/dev/sda:100GB:scsi:512:512:unknown:disk;\n".toList]
    blockDevices := [path] }

theorem ScriptedHost.probe_unlabelled (path : Path) :
    answer (.nodeKind path) (unlabelled path) = ⟨.ok .blockDevice, unlabelled path, []⟩ := by
  simp [unlabelled, answer, kindOf, Path.same]

namespace Session

section anyHost

variable {σ : Type} {host : Host σ} {state : σ} {settings : Settings} {disk path : Path}
  {flags : RunFlags} {request : CommandLine.Request} {m : Moment σ}

theorem written_of_mem_reformat {requested : Option Path} {dryRun : Bool}
    (written : m.call.written? = some disk)
    (member : m ∈ (Reformat.reformat requested dryRun).history host state) :
    dryRun = false ∧ ((Reformat.target requested).run host state).value = .ok (some disk) := by
  rcases Reformat.stage_of_mem_reformat member with looking | ⟨wiped, found, wiping⟩
  · rw [Call.written?_of_reads (Reformat.mem_target looking)] at written
    cases written
  · rcases Reformat.mem_wipe wiping with call | ⟨live, ⟨point, call⟩ | call⟩
    · rw [call] at written
      cases written
    · rw [call] at written
      cases written
    · rw [call] at written
      cases written
      exact ⟨live, found⟩

theorem written_of_mem_partitionDisk (written : m.call.written? = some disk)
    (member : m ∈ (partitionDisk settings path flags).history host state) :
    path = disk ∧ flags.dryRun = false ∧ isWholeDisk disk = true := by
  have asks := asks_of_mem_partitionDisk member
  generalize m.call = call at asks written
  cases asks with
  | write whole live script =>
    rw [Call.written?] at written
    split at written
    · cases written
    · cases written
      exact ⟨rfl, live, whole⟩
  | _ => cases written

/-- A disk that is written is one of the report, or the request's path leads to it. -/
theorem named_or_writes (written : m.call.written? = some disk)
    (member : m ∈ (dispatch settings request).history host state) :
    (isWholeDisk disk = true ∧ disk.HasDiskName) ∨ request.Writes disk := by
  rcases mem_dispatch member with reformatting | ⟨flags, success, performing⟩
  · obtain ⟨reformats, reformatting⟩ := mem_reformat_of_reformatFirst reformatting
    obtain ⟨live, found⟩ := written_of_mem_reformat written reformatting
    rcases Reformat.target_found found with ⟨path, named, rfl, whole⟩ | ⟨-, name, rfl, named⟩
    · exact Or.inr ⟨live, whole, Or.inl ⟨reformats, path, named, rfl⟩⟩
    · exact Or.inl (isWholeDisk_ofDeviceName named)
  · rcases mem_perform performing with call | ⟨name, named, call | ⟨-, call⟩⟩ |
      ⟨path, chosen, partitioning⟩
    · rw [call] at written
      cases written
    · rw [call] at written
      cases written
    · rw [call] at written
      cases written
      exact Or.inl (isWholeDisk_ofDeviceName named)
    · obtain ⟨rfl, live, whole⟩ := written_of_mem_partitionDisk written partitioning
      obtain ⟨rfl, -⟩ := reformatFirst_ok (CommandLine.Request.disk_of_selected chosen) success
      exact Or.inr ⟨live, whole, Or.inr chosen⟩

end anyHost

section unlabelled

variable {settings : Settings} {request : CommandLine.Request} {disk path : Path}

theorem wipe_asked_unlabelled (live : request.dryRun = false) (reformats : request.reformat = true)
    (named : request.disk = some path) (whole : isWholeDisk path.stem = true) :
    ∃ m ∈ (dispatch settings request).history scripted (.unlabelled path),
      m.call = .wipeBootSector path.stem := by
  have wiped : ((Reformat.wipe path.stem false).run scripted (.unlabelled path)).value = .ok () :=
    Reformat.wipe_works rfl
  have success : ((reformatFirst request).run scripted (.unlabelled path)).value =
      .ok ⟨false, true, true⟩ := by
    rw [← (run_silent scripted _ _).1, silent_reformatFirst reformats, named, live, run_bind_value,
      Reformat.silent_reformat, run_ask_value, ScriptedHost.scripted_answer,
      ScriptedHost.probe_unlabelled]
    simp [whole, run_silent, wiped]
  obtain ⟨m, member, call⟩ := wipe_asked_of_reformatFirst named success reformats live
  rw [dispatch, bind_eq, history_bind]
  exact ⟨m, List.mem_append_left _ member, call⟩

theorem validate_unlabelled {flags : RunFlags} (whole : isWholeDisk disk = true) :
    ((validate disk flags).run scripted (.unlabelled disk)).value = .ok () := by
  have cleared : reportVerdict disk (ScriptedHost.answer .readPartitions (.unlabelled disk)).reply =
      .ok () := by
    have no_rows : Discovery.rowsOf
        (ScriptedHost.answer .readPartitions (.unlabelled disk)).reply = .ok [] := by
      rfl
    have no_partitions : Inventory.partitions [] disk = [] := by
      unfold Inventory.partitions
      cases disk.baseName? <;> rfl
    simp only [reportVerdict, no_rows, no_partitions]
  rw [← (run_silent scripted _ _).1, silent_validate, run_ask_value,
    ScriptedHost.scripted_answer, ScriptedHost.probe_unlabelled]
  cases fresh : flags.reformatted with
  | true => simp [whole]
  | false => simp [whole, cleared]

/-- A survey that reads a size without a label asks for one. -/
theorem label_asked_by_survey {host : ScriptedHost} (alike : ScriptedHost.Alike host (.unlabelled disk)) :
    ∃ m ∈ (Survey.survey disk false).history scripted host,
      m.call = .parted disk Survey.labelScript := by
  have printed := (ScriptedHost.answer_parted_alike disk Survey.sizeQuery alike).1
  have unlabelled : Survey.firstGeometry
      (ScriptedHost.answer (.parted disk Survey.sizeQuery) (.unlabelled disk)).reply =
        .ok ⟨100, unknownLabel⟩ := by
    rfl
  rw [Survey.survey, if_neg Bool.false_ne_true, ← history_silent, Survey.silent_inspect,
    history_ask, ScriptedHost.scripted_answer, printed, unlabelled]
  exact ⟨_, List.mem_cons_of_mem _ List.mem_cons_self, rfl⟩

theorem label_asked_unlabelled (live : request.dryRun = false) (plain : request.reformat = false)
    (chosen : request.selected = .partition disk) (whole : isWholeDisk disk = true) :
    ∃ m ∈ (dispatch settings request).history scripted (.unlabelled disk),
      m.call = .parted disk Survey.labelScript := by
  have checked : ((validate disk ⟨false, request.force, false⟩).run scripted
      (.unlabelled disk)).value = .ok () := validate_unlabelled whole
  have alike : ScriptedHost.Alike ((validate disk ⟨false, request.force, false⟩).run scripted
      (.unlabelled disk)).state (.unlabelled disk) :=
    (unasked_validate (.refl _) _).alike
  obtain ⟨m, member, call⟩ := label_asked_by_survey alike
  rw [dispatch_of_selected chosen, reformatFirst_plain plain, live, done_bind, history_bind,
    history_partitionDisk checked]
  exact ⟨m, List.mem_append_left _ (List.mem_append_right _ (List.mem_append_left _ member)), call⟩

/-- Every disk that a request writes by its path, it writes on some host. -/
theorem exists_written_of_writes (writes : request.Writes disk) :
    ∃ host, ∃ m ∈ (dispatch settings request).history scripted host,
      m.call.written? = some disk := by
  obtain ⟨live, whole, way⟩ := writes
  cases reformats : request.reformat with
  | true =>
    obtain ⟨path, named, rfl⟩ : ∃ path, request.disk = some path ∧ path.stem = disk := by
      rcases way with ⟨-, leads⟩ | chosen
      · exact leads
      · exact ⟨disk, CommandLine.Request.disk_of_selected chosen, stem_of_isWholeDisk whole⟩
    obtain ⟨m, member, call⟩ := wipe_asked_unlabelled live reformats named whole
    exact ⟨_, m, member, by rw [call]; rfl⟩
  | false =>
    have chosen : request.selected = .partition disk := by
      rcases way with ⟨other, -⟩ | chosen
      · cases reformats.symm.trans other
      · exact chosen
    obtain ⟨m, member, call⟩ := label_asked_unlabelled live reformats chosen whole
    exact ⟨_, m, member, by rw [call]; rfl⟩

end unlabelled

/-- Every disk that is written is the disk of a path whose last component ends in the name of
a whole disk. That component is the name alone, whatever the host, exactly when nothing but a
slash stands before the name in each path that the request writes by. -/
theorem written_named_iff (settings : Settings) (request : CommandLine.Request) :
    (∀ (σ : Type) (host : Host σ) (state : σ),
      ∀ m ∈ (dispatch settings request).history host state,
      ∀ disk, m.call.written? = some disk →
        ∃ front letter, disk.baseName? = some (front ++ ['s', 'd', letter]) ∧
          isDriveLetter letter = true) ∧
    ((∀ (σ : Type) (host : Host σ) (state : σ),
        ∀ m ∈ (dispatch settings request).history host state,
        ∀ disk, m.call.written? = some disk → disk.HasDiskName) ↔
      ∀ disk, request.Writes disk → disk.StandsAlone) := by
  refine ⟨?_, ?_, ?_⟩
  · intro σ host state m member disk written
    have whole : isWholeDisk disk = true := by
      rcases named_or_writes written member with ⟨whole, -⟩ | ⟨-, whole, -⟩
      · exact whole
      · exact whole
    obtain ⟨text⟩ := disk
    obtain ⟨front, letter, rfl, isLetter⟩ := isWholeDisk_iff.mp whole
    obtain ⟨start, base, -⟩ := baseName?_wholeDisk front isLetter
    exact ⟨start, letter, base, isLetter⟩
  · intro named disk writes
    obtain ⟨host, m, member, written⟩ := exists_written_of_writes writes
    exact (hasDiskName_iff writes.2.1).mp (named _ scripted host m member disk written)
  · intro alone σ host state m member disk written
    rcases named_or_writes written member with ⟨-, named⟩ | writes
    · exact named
    · exact (hasDiskName_iff writes.2.1).mpr (alone disk writes)

/-- A path with a doubled slash leads to the disk alone: no host has another disk written. -/
theorem doubled_slash_named :
    let request : CommandLine.Request :=
      { CommandLine.Request.empty with disk := some ⟨"/dev//sda1".toList⟩, reformat := true }
    ∀ (σ : Type) (host : Host σ) (state : σ),
      ∀ m ∈ (dispatch (Settings.standard []) request).history host state,
      ∀ disk, m.call.written? = some disk → disk.HasDiskName := by
  intro request
  refine (written_named_iff (Settings.standard []) request).2.mpr ?_
  have alone : (Path.stem ⟨"/dev//sda1".toList⟩).StandsAlone := by
    have before : (Path.stem ⟨"/dev//sda1".toList⟩).text.reverse[3]? = some '/' := by
      decide +kernel
    intro c same
    exact Option.some.inj (same.symm.trans before)
  rintro disk ⟨-, whole, ⟨-, path, named, rfl⟩ | chosen⟩
  · cases named
    exact alone
  · cases chosen
    rw [← stem_of_isWholeDisk whole]
    exact alone

/-- A path whose name only ends like that of a disk is wiped. -/
theorem longer_name_wiped :
    let path : Path := ⟨"/dev/xsda".toList⟩
    let host := { ScriptedHost.empty with blockDevices := [path] }
    let request : CommandLine.Request :=
      { CommandLine.Request.empty with disk := some path, reformat := true }
    ¬ ∀ m ∈ (dispatch (Settings.standard []) request).history scripted host,
      ∀ disk, m.call.written? = some disk → disk.HasDiskName := by
  intro path host request named
  have wiped : Call.wipeBootSector path ∈
      ((dispatch (Settings.standard []) request).history scripted host).map Moment.call := by
    decide +kernel
  obtain ⟨m, member, call⟩ := List.mem_map.mp wiped
  obtain ⟨name, base, isName⟩ := named m member path (by rw [call]; rfl)
  have last : path.baseName? = some "xsda".toList := by decide +kernel
  cases last.symm.trans base
  exact absurd isName (by decide)

end Session

end DiskPrep
