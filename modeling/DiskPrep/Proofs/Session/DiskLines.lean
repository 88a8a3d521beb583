import DiskPrep.Proofs.Disk.Boundaries
import DiskPrep.Proofs.Session.PartitionTrace
import DiskPrep.Proofs.Session.QueryCommands

/-!
Lines of a listing and what was asked for them. Every disk that is found has one line, and the
requests behind the look at the report are cut into blocks, one for each disk in the same order
(`Listed`). A block is about its disk alone, and the line says what its last query has yielded, and
that it is not known only where the query yielded nothing (`reported_survey`). So a failure over one
disk is seen in no other line.
-/
namespace DiskPrep

open Workflow

namespace Survey

/-- The requests that a survey may make of a disk. -/
def blocks (disk : Path) (dryRun : Bool) : List (List Call) :=
  let query := Call.parted disk sizeQuery
  let label := Call.parted disk labelScript
  if dryRun then [[query]] else [[query], [query, label], [query, label, query]]

/-- The answer to a lone query holds the geometry. A tool that failed over it is believed when that is
the geometry of a disk without a label. -/
inductive Shows : Except HostError Text → Geometry → Prop
  | printed {output : Text} {geometry : Geometry}
      (parses : Geometry.parseSummary output = .ok geometry) : Shows (.ok output) geometry
  | failed {program : Text} {code : Option Int} {output : Text} {geometry : Geometry}
      (parses : Geometry.parseSummary output = .ok geometry)
      (unlabelled : geometry.label = unknownLabel) :
      Shows (.error (.commandFailed program code output)) geometry

theorem firstGeometry_eq_ok_iff {reply : Except HostError Text} {geometry : Geometry} :
    firstGeometry reply = .ok geometry ↔ Shows reply geometry := by
  constructor
  · intro found
    obtain ⟨output, prints, parses⟩ := printed_firstGeometry found
    cases reply with
    | ok printed =>
      cases prints
      exact .printed parses
    | error cause =>
      cases cause with
      | commandFailed program code printed =>
        cases prints
        refine .failed parses (needsLabel_iff.mp ?_)
        by_contra labelled
        simp only [firstGeometry, parses, if_neg labelled] at found
        cases found
      | _ => cases prints
  · rintro (parses | ⟨parses, unlabelled⟩)
    · simp only [firstGeometry, geometryIn, parses]
    · simp only [firstGeometry, parses, if_pos (needsLabel_iff.mpr unlabelled)]

/-- The last query of the block gives the geometry; a dry run makes only one. -/
def Yields {σ : Type} (disk : Path) (dryRun : Bool) (block : List (Moment σ)) (geometry : Geometry) :
    Prop :=
  if dryRun then
    ∃ met reply, block = [⟨met, .parted disk sizeQuery, reply⟩] ∧ Shows reply geometry
  else ReadLast disk block geometry

variable {σ : Type} {host : Host σ} {disk : Path} {dryRun : Bool} {state : σ}

theorem asked_survey :
    ((survey disk dryRun).history host state).map Moment.call ∈ blocks disk dryRun := by
  unfold survey blocks
  split
  next => rw [history_probe, List.map_singleton]; exact List.mem_singleton_self _
  next =>
    rw [history_inspect]
    rcases @asked_inspect?_cases σ host disk state with ⟨-, asked⟩ | ⟨-, asked | asked⟩ <;>
      simp [asked]

/-- A size above zero is what the block has yielded. -/
theorem yields_of_usable (usable : 0 < ((survey disk dryRun).run host state).value.total) :
    Yields disk dryRun ((survey disk dryRun).history host state)
      ((survey disk dryRun).run host state).value := by
  cases dryRun with
  | true =>
    simp only [survey, Yields, if_true] at usable ⊢
    rw [value_probe] at usable ⊢
    obtain ⟨geometry, found, -⟩ := usable_known (decide_eq_true usable)
    rw [found]
    exact ⟨state, _, history_probe, firstGeometry_eq_ok_iff.mp found⟩
  | false =>
    simp only [survey, Yields, Bool.false_eq_true, if_false] at usable ⊢
    exact readLast_of_usable usable

/-- What the block has yielded is what is known. -/
theorem value_of_yields {geometry : Geometry}
    (yields : Yields disk dryRun ((survey disk dryRun).history host state) geometry) :
    ((survey disk dryRun).run host state).value = geometry := by
  cases dryRun with
  | true =>
    simp only [survey, Yields, if_true] at yields ⊢
    obtain ⟨met, reply, block, shows⟩ := yields
    rw [history_probe] at block
    injection block with same
    injection same with _ _ replies
    rw [value_probe, replies, firstGeometry_eq_ok_iff.mpr shows, known]
  | false =>
    simp only [survey, Yields, Bool.false_eq_true, if_false] at yields ⊢
    exact value_of_readLast yields

end Survey

namespace Session

/-- A run that partitions the disk, and finds it to be of the size, first makes a system partition that
ends here. -/
def EndsSystemAt (settings : Settings) (disk : Path) (total : Nat) (finish : Text) : Prop :=
  ∀ {τ : Type} (host : Host τ) (state : τ) (flags : RunFlags), flags.dryRun = false →
    ((validate disk flags).run host state).value = .ok () →
    (surveyed host disk flags state).value.total = total →
    ∃ reply later, (partitionDisk settings disk flags).history host state =
      (validate disk flags).history host state ++
        (Survey.survey disk flags.dryRun).history host ((validate disk flags).run host state).state ++
        ⟨(surveyed host disk flags state).state,
          .parted disk (Step.partitionScript true ⟨['0'], finish⟩), reply⟩ :: later

variable {σ : Type} {host : Host σ} {state : σ} {settings : Settings} {disk : Path} {dryRun : Bool}

theorem endsSystemAt_plan {total : Nat} (positive : 0 < total) :
    EndsSystemAt settings disk total
      (Plan.ofPercent total settings.systemPercent).systemBounds.finish := by
  intro τ host state flags live checked sized
  have usable : (surveyed host disk flags state).value.isUsable = true := by
    rw [Geometry.isUsable, sized]
    exact decide_eq_true positive
  rw [history_partitionDisk checked, if_pos usable, history_partitionSized, sized, live,
    ← List.append_assoc]
  exact ⟨_, _, rfl⟩

/-- The block is about the disk, and the size and the share that are shown come from it: the size is
what the block has yielded, and zero only where it has yielded no other. -/
structure Reported (settings : Settings) (dryRun : Bool) (disk : Path) (block : List (Moment σ))
    (total : Nat) (share : Text) : Prop where
  asked : block.map Moment.call ∈ Survey.blocks disk dryRun
  yielded : 0 < total → ∃ label, Survey.Yields disk dryRun block ⟨total, label⟩
  total_eq : ∀ geometry, Survey.Yields disk dryRun block geometry → total = geometry.total
  share_eq_zero : share = ['0'] ↔ total = 0
  boundary : 0 < total → EndsSystemAt settings disk total share

/-- The line shows the disk with a size and a share. -/
def lineOf (disk : Path) (total : Nat) (share : Text) : Text :=
  disk.text ++ ':' :: decimal total ++ " GB:".toList ++ share ++ " GB".toList

/-- The lines are those of the disks, one for each in the same order, and the history is cut into
their blocks. -/
inductive Listed (settings : Settings) (dryRun : Bool) :
    List Path → List Text → List (Moment σ) → Prop where
  | nil : Listed settings dryRun [] [] []
  | cons {disk : Path} {block later : List (Moment σ)} {total : Nat} {share : Text}
      {disks : List Path} {lines : List Text} (here : Reported settings dryRun disk block total share)
      (rest : Listed settings dryRun disks lines later) :
      Listed settings dryRun (disk :: disks) (lineOf disk total share :: lines) (block ++ later)

/-- What a survey finds out is reported of its disk, also when it finds out nothing. -/
theorem reported_survey :
    Reported settings dryRun disk ((Survey.survey disk dryRun).history host state)
      ((Survey.survey disk dryRun).run host state).value.total
      (systemShareText settings ((Survey.survey disk dryRun).run host state).value) where
  asked := Survey.asked_survey
  yielded usable := ⟨_, Survey.yields_of_usable usable⟩
  total_eq _ yields := congrArg Geometry.total (Survey.value_of_yields yields)
  share_eq_zero := by
    unfold systemShareText
    split
    next usable =>
      exact iff_of_false (sizeText_ne_zero _) (Nat.pos_iff_ne_zero.mp (of_decide_eq_true usable))
    next unknown =>
      refine iff_of_true rfl (Nat.eq_zero_of_not_pos fun positive => ?_)
      exact unknown (decide_eq_true positive)
  boundary positive := by
    rw [systemShareText, if_pos (show Geometry.isUsable _ = true from decide_eq_true positive)]
    exact endsSystemAt_plan positive

/-- Each disk of a listing is looked at in its turn, whatever has become of those before it. -/
theorem listed_diskLines (devices : List BlockDevice) :
    Listed settings dryRun (devices.map BlockDevice.path)
      ((diskLines settings dryRun devices).run host state).value
      ((diskLines settings dryRun devices).history host state) := by
  induction devices generalizing state with
  | nil => exact .nil
  | cons device rest ih =>
    rw [diskLines, bind_eq, history_bind, bind_eq, history_bind, pure_eq, history_done,
      List.append_nil, run_bind_value, bind_eq, run_bind_value, pure_eq, run_done_value]
    exact .cons reported_survey ih

theorem history_disks (selection : Selection) :
    (Discovery.disks selection).history host state =
      [⟨state, .readPartitions, (host.answer .readPartitions state).reply⟩] := by
  rw [← history_silent, Discovery.silent_disks, history_ask, history_done]

/-- Every line of a listing is about its own disk. The lines are those of the disks found, one for
each in the same order, and the requests behind the look at the report are cut into blocks that ask
for these disks in turn. The size that a line shows is what the last query of its block has yielded,
and zero where it has yielded none; the share is where a run that partitions such a disk would end the
system partition. -/
theorem lines_about_own_disks (settings : Settings) (flags : RunFlags) (host : ScriptedHost) :
    let selection : Selection := if flags.force then .all else .unpartitioned
    let found := Discovery.disksFound scripted host selection
    let listing := listDisks settings flags
    ∃ reply later,
      listing.history scripted host = ⟨host, .readPartitions, reply⟩ :: later ∧
        (listing.run scripted host).state.record =
          host.record ++ .readPartitions :: later.map Moment.call ∧
        Listed settings flags.dryRun (found.map BlockDevice.path)
          (listing.run scripted host).value later := by
  intro selection found listing
  have history : listing.history scripted host =
      ⟨host, .readPartitions, (scripted.answer .readPartitions host).reply⟩ ::
        (diskLines settings flags.dryRun found).history scripted
          ((Discovery.disks selection).run scripted host).state := by
    rw [show listing = (Discovery.disks selection).bind (diskLines settings flags.dryRun) from rfl,
      history_bind, history_disks]
    rfl
  have value : (listing.run scripted host).value = ((diskLines settings flags.dryRun found).run scripted
      ((Discovery.disks selection).run scripted host).state).value := run_bind_value ..
  refine ⟨_, _, history, ?_, ?_⟩
  · have recorded : ∀ call ∈ (listing.history scripted host).map Moment.call,
        call.isRecorded = true := by
      intro call member
      obtain ⟨m, asked, rfl⟩ := List.mem_map.mp member
      exact (labelsOnly_listDisks.inquires m asked).recorded
    rw [ScriptedHost.run_record, Workflow.trace, List.filter_eq_self.mpr recorded, history]
    rfl
  · rw [value]
    exact listed_diskLines found

/-- Three disks, of which the first cannot be asked and the second is given a label. Each line shows
its own disk. -/
theorem failure_keeps_other_lines :
    let summary (label : String) : Text := ("/dev/sdb:500GB:scsi:512:512:" ++ label ++ ":disk:;\n").toList
    let host := { ScriptedHost.empty with
      partitions := some "major minor  #blocks  name\n\n8 0 9 sda\n8 16 9 sdb\n8 32 9 sdc\n".toList
      replies := [.failed "Error\n".toList, .failed (summary "unknown"), .printed (summary "msdos"),
        .printed "/dev/sdc:7GB:scsi:512:512:gpt:disk:;\n".toList] }
    let flags : RunFlags := ⟨false, false, false⟩
    let listing := (listDisks (Settings.standard []) flags).run scripted host
    listing.value = ["/dev/sda:0 GB:0 GB".toList, "/dev/sdb:500 GB:25.0 GB".toList,
        "/dev/sdc:7 GB:0.35 GB".toList] ∧
      ∃ later : List (Moment ScriptedHost),
        listing.state.record = .readPartitions :: later.map Moment.call ∧
          Listed (Settings.standard []) false
            [⟨"/dev/sda".toList⟩, ⟨"/dev/sdb".toList⟩, ⟨"/dev/sdc".toList⟩] listing.value later := by
  intro summary host flags listing
  have found : (Discovery.disksFound scripted host .unpartitioned).map BlockDevice.path =
      [⟨"/dev/sda".toList⟩, ⟨"/dev/sdb".toList⟩, ⟨"/dev/sdc".toList⟩] := by decide +kernel
  obtain ⟨reply, later, -, record, listed⟩ := lines_about_own_disks (Settings.standard []) flags host
  refine ⟨by decide +kernel, later, record, ?_⟩
  rw [← found]
  exact listed

end Session

end DiskPrep
