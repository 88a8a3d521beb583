import DiskPrep.CommandLine.Parse
import DiskPrep.Proofs.Session.Labelling
import DiskPrep.Proofs.Session.Mirrors

/-!
A dry run tells the truth (`dry_run_tells_truth`), but for a disk with a name that begins like an
intent, of which some lines stand for nothing that is done (`named_disk_tells_more`). The stages of
a run are compared with those of its dry run one by one. The reformats come first, from one host;
after them the hosts differ by the record and the mounts only, so that the checks and the size come
out alike (`validate_unasked`, `rehearsed_survey`) and the layouts are of one plan.
-/
namespace DiskPrep

open Workflow

/-- What the tool prints by a scripted answer. -/
def QueryReply.output : QueryReply → Text
  | printed output | failed output => output

namespace Session

section scriptedHost

variable {settings : Settings} {disk : Path} {host : ScriptedHost}

/-- The first reply to come does not show a disk without a label. -/
theorem firstAnswer_labelled {state : ScriptedHost} (unasked : host.Unasked state)
    (labelled : ∀ reply ∈ host.replies.head?, ¬ Survey.SummaryUnlabelled reply.output) :
    ¬ Survey.ShowsUnlabelled (Survey.firstAnswer scripted disk state).reply := by
  have query : Survey.sizeQuery.isQuery = true := rfl
  have reply : (Survey.firstAnswer scripted disk state).reply =
      (ScriptedHost.answer (.parted disk Survey.sizeQuery) host).reply :=
    unasked.reply Call.noConfusion
  rw [reply]
  simp only [ScriptedHost.answer, ScriptedHost.answerParted, ScriptedHost.recording, query, if_true]
  rintro ⟨output, printed, unlabelled⟩
  cases replies : host.replies with
  | nil =>
    rw [replies] at printed
    cases printed
    obtain ⟨geometry, parsed, -⟩ := unlabelled
    cases parsed
  | cons first rest =>
    rw [replies] at printed labelled
    have shown : first.output = output := by
      cases first <;> exact Option.some.inj printed
    rw [← shown] at unlabelled
    exact labelled first rfl unlabelled

/-- The checks come out alike while only the record and the mounts differ. -/
theorem validate_unasked {first second : ScriptedHost} (unasked : host.Unasked first)
    (unasked' : host.Unasked second) (flags : RunFlags) :
    ((validate disk flags).run scripted first).value =
      ((validate disk flags).run scripted second).value := by
  have at_start : ∀ state, host.Unasked state →
      ((validate disk flags).run scripted state).value =
        ((validate disk flags).run scripted host).value := by
    intro state unasked
    have kind : (scripted.answer (.nodeKind disk) state).reply =
        (scripted.answer (.nodeKind disk) host).reply := unasked.reply Call.noConfusion
    -- A look at a path leaves the host as it is.
    have report :
        (scripted.answer .readPartitions (scripted.answer (.nodeKind disk) state).state).reply =
          (scripted.answer .readPartitions (scripted.answer (.nodeKind disk) host).state).reply :=
      unasked.reply Call.noConfusion
    rw [validate_value, validate_value, kind, report]
  rw [at_start first unasked, at_start second unasked']

/-- A survey finds out what its dry run does, where it need not write a label. -/
theorem rehearsed_survey {ofSteps : Bool} {first second : ScriptedHost}
    (labelled : ∀ reply ∈ host.replies.head?, ¬ Survey.SummaryUnlabelled reply.output)
    (unasked : host.Unasked first) (unasked' : host.Unasked second) :
    Rehearsed ofSteps (Survey.survey disk true) (Survey.survey disk false) first second := by
  have shows : ¬ Survey.ShowsUnlabelled (Survey.firstAnswer scripted disk second).reply :=
    firstAnswer_labelled unasked' labelled
  have same : (Survey.firstAnswer scripted disk first).reply =
      (Survey.firstAnswer scripted disk second).reply :=
    (unasked.reply Call.noConfusion).trans (unasked'.reply Call.noConfusion).symm
  refine rehearsed_of_looks ?_ (tells_probe.mono fun _ quiet => quiet.1).intents_eq_nil ?_
  · rw [Survey.survey, if_pos rfl, Survey.survey, if_neg Bool.false_ne_true, Survey.value_probe,
      Survey.value_inspect_labelled shows, same]
  · intro m member
    rw [Survey.survey, if_neg Bool.false_ne_true, Survey.history_inspect,
      (Survey.inspect?_labelled shows).1] at member
    rw [List.mem_singleton.mp member]
    exact Call.looks_sizeQuery disk

/-- A run that partitions a disk does what its dry run tells of. -/
theorem rehearsed_partitionDisk (settings : Settings) (disk : Path) {first second : ScriptedHost}
    (works : host.failures = ⟨none, none, none, none⟩)
    (labelled : ∀ reply ∈ host.replies.head?, ¬ Survey.SummaryUnlabelled reply.output)
    (unasked : host.Unasked first) (unasked' : host.Unasked second) (forced reformatted : Bool) :
    Rehearsed true (partitionDisk settings disk ⟨true, forced, reformatted⟩)
      (partitionDisk settings disk ⟨false, forced, reformatted⟩) first second := by
  refine Rehearsed.bind (rehearsed_of_looks (validate_unasked unasked unasked' _)
    (intents_validate _) fun m member => Call.looks_of_reads (validate_reads member)) ?_
  intro checked
  cases checked with
  | error failure => exact rehearsed_done _ _ _
  | ok _ =>
    refine Rehearsed.bind (rehearsed_survey labelled (unasked_validate unasked _)
      (unasked_validate unasked' _)) ?_
    intro geometry
    by_cases usable : geometry.isUsable = true
    · simp only [usable, if_true]
      refine Rehearsed.bind (Layout.rehearsed_execute _ _ _ _ ?_) ?_
      · rw [ScriptedHost.run_failures, ScriptedHost.run_failures, unasked'.alike.2, works]
      · intro laid
        cases laid with
        | error failure => exact rehearsed_done _ _ _
        | ok _ => exact .say rfl (rehearsed_done _ _ _)
    · simp only [usable, Bool.false_eq_true, if_false]
      exact rehearsed_done _ _ _

end scriptedHost

section dispatch

variable {settings : Settings} {request : CommandLine.Request} {disk : Path} {host : ScriptedHost}

/-- The reformat before a command tells the truth in its dry run, and both fail alike or go on
with the same flags. -/
theorem rehearsed_reformatFirst (works : host.failures.unmount = none)
    (named : request.disk = some disk) :
    let dry := reformatFirst { request with dryRun := true }
    let real := reformatFirst { request with dryRun := false }
    Mirrors (dry.intents scripted host) (real.history scripted host) ∧
      (∀ intent ∈ dry.intents scripted host, intent.isStep = false) ∧
      ((∃ failure, (dry.run scripted host).value = .error failure ∧
          (real.run scripted host).value = .error failure) ∨
        ∃ forced reformatted,
          (dry.run scripted host).value = .ok ⟨true, forced, reformatted⟩ ∧
            (real.run scripted host).value = .ok ⟨false, forced, reformatted⟩) := by
  intro dry real
  cases reformats : request.reformat with
  | false =>
    have plain : ∀ isDry, reformatFirst { request with dryRun := isDry } =
        done (.ok ⟨isDry, request.force, false⟩) := fun isDry => reformatFirst_plain reformats
    simp only [dry, real, plain]
    refine ⟨.nil, ?_, Or.inr ⟨request.force, false, rfl, rfl⟩⟩
    intro intent member
    exact absurd member List.not_mem_nil
  | true =>
    obtain ⟨same, kind, mirrors⟩ := Reformat.rehearsed_reformat disk works
    have dry_eq : dry = _ := @reformatFirst_reformats { request with dryRun := true } reformats
    have real_eq : real = _ := @reformatFirst_reformats { request with dryRun := false } reformats
    rw [dry_eq, real_eq]
    simp only [named, intents_bind, history_bind, run_bind_value, ← same]
    cases ((Reformat.reformat (some disk) true).run scripted host).value with
    | error failure =>
      simp only [intents_done, history_done, List.append_nil]
      exact ⟨mirrors, kind, Or.inl ⟨failure, rfl, rfl⟩⟩
    | ok found =>
      cases found with
      | none =>
        simp only [intents_done, history_done, List.append_nil]
        exact ⟨mirrors, kind, Or.inr ⟨true, false, rfl, rfl⟩⟩
      | some wiped =>
        have plain : (Notice.reformatted wiped).intent? = none := rfl
        simp only [intents_say scripted _ plain, intents_done, history_say, history_done,
          List.append_nil]
        exact ⟨mirrors, kind, Or.inr ⟨true, true, rfl, rfl⟩⟩

/-- A dispatch does what its dry run tells of, stage by stage. -/
theorem rehearsed_dispatch (settings : Settings) (chosen : request.selected = .partition disk)
    (works : host.failures = ⟨none, none, none, none⟩)
    (labelled : ∀ reply ∈ host.replies.head?, ¬ Survey.SummaryUnlabelled reply.output) :
    let dry := { request with dryRun := true }
    let real := { request with dryRun := false }
    ((dispatch settings dry).run scripted host).value =
      ((dispatch settings real).run scripted host).value ∧
    Mirrors ((reformatFirst dry).intents scripted host)
      ((reformatFirst real).history scripted host) ∧
    (∀ intent ∈ (reformatFirst dry).intents scripted host, intent.isStep = false) ∧
    ∃ steps later,
      (dispatch settings dry).intents scripted host =
        (reformatFirst dry).intents scripted host ++ steps ∧
      (dispatch settings real).history scripted host =
        (reformatFirst real).history scripted host ++ later ∧
      Mirrors steps later ∧ ∀ intent ∈ steps, intent.isStep = true := by
  intro dry real
  have chosen_dry : dry.selected = .partition disk := chosen
  have chosen_real : real.selected = .partition disk := chosen
  have named : request.disk = some disk := CommandLine.Request.disk_of_selected chosen
  obtain ⟨mirrors, kind, ended⟩ :=
    rehearsed_reformatFirst (congrArg ToolFailures.unmount works) named
  rw [dispatch_of_selected chosen_dry, dispatch_of_selected chosen_real]
  simp only [run_bind_value, intents_bind, history_bind]
  rcases ended with ⟨failure, failed, failed'⟩ | ⟨forced, reformatted, flags, flags'⟩
  · rw [failed, failed']
    refine ⟨rfl, mirrors, kind, [], [], rfl, rfl, .nil, ?_⟩
    intro intent member
    exact absurd member List.not_mem_nil
  · obtain ⟨same, steps, mirrored⟩ := rehearsed_partitionDisk settings disk works labelled
      (unasked_reformatFirst dry) (unasked_reformatFirst real) forced reformatted
    rw [flags, flags']
    simp only [run_bind_value, intents_bind, history_bind, same, intents_done, history_done,
      List.append_nil]
    exact ⟨rfl, mirrors, kind, _, _, rfl, rfl, mirrored, steps⟩

end dispatch

/-- A dry run tells the truth. Where all tools work, and the first size to be read is not that of
a disk without a label, it comes to the same as the run that is none. The lines of its log that begin
as a dry run's are its intents, each on a line of its own and in order, and what it says of its disk
by name where that name begins so. The run that is none carries out these intents, each once and in
order, and otherwise only looks: those of the reformat while it reformats, and then the steps. -/
theorem dry_run_tells_truth (settings : Settings) (request : CommandLine.Request) (disk : Path)
    (host : ScriptedHost) (chosen : request.selected = .partition disk)
    (works : host.failures = ⟨none, none, none, none⟩)
    (labelled : ∀ reply ∈ host.replies.head?, ¬ Survey.SummaryUnlabelled reply.output) :
    let dry := { request with dryRun := true }
    let real := { request with dryRun := false }
    ((dispatch settings dry).run scripted host).value =
      ((dispatch settings real).run scripted host).value ∧
    ∃ wiping opening steps closing later,
      (dispatch settings dry).intents scripted host = wiping ++ steps ∧
      ((dispatch settings dry).run scripted host).log.filter LogLine.isDryRun =
        (wiping.map Notice.intended ++ opening ++ steps.map Notice.intended ++ closing).map
          Notice.line ∧
      NamedReports disk
        (request.reformat = true ∧
          ∃ flags, ((reformatFirst dry).run scripted host).value = .ok flags)
        (∃ printed, ((dispatch settings dry).run scripted host).value = .ok printed)
        opening closing ∧
      (dispatch settings real).history scripted host =
        (reformatFirst real).history scripted host ++ later ∧
      Mirrors wiping ((reformatFirst real).history scripted host) ∧
      Mirrors steps later ∧
      (∀ intent ∈ wiping, intent.isStep = false) ∧ ∀ intent ∈ steps, intent.isStep = true := by
  intro dry real
  obtain ⟨same, wiped, wiping_kind, steps, later, intents, history, carried, steps_kind⟩ :=
    rehearsed_dispatch settings chosen works labelled
  obtain ⟨opening, told_steps, closing, told, marked, reports⟩ :=
    @marked_dispatch _ scripted host settings dry disk rfl chosen
  obtain rfl : told_steps = steps := List.append_cancel_left (told.symm.trans intents)
  refine ⟨same, _, opening, told_steps, closing, later, intents, ?_, reports, history, wiped,
    carried, wiping_kind, steps_kind⟩
  rw [log_dryRun, marked]

theorem labelled_oneDisk (mounts : Text) :
    ∀ reply ∈ (ScriptedHost.oneDisk mounts).replies.head?,
      ¬ Survey.SummaryUnlabelled reply.output := by
  rintro reply first ⟨geometry, parsed, unlabelled⟩
  cases first
  have known : Geometry.parseSummary
      "BYT;\n/dev/sda:100GB:scsi:512:512:msdos:disk;\n".toList = .ok ⟨100, "msdos".toList⟩ := by
    decide +kernel
  cases known.symm.trans parsed
  cases unlabelled

/-- A dry reformat of a mounted disk tells of all that the reformat does, and of nothing else. -/
theorem mounted_disk_rehearsed :
    let host := ScriptedHost.oneDisk "/dev/sda1 /mnt ext4\n/dev/sdb1 /data ext4\n".toList
    let settings := Settings.standard []
    let request : CommandLine.Request :=
      { CommandLine.Request.empty with disk := some ScriptedHost.firstDisk, reformat := true }
    let dry := { request with dryRun := true }
    let shown := ((dispatch settings dry).run scripted host).log.filter LogLine.isDryRun
    ((dispatch settings dry).run scripted host).value =
        ((dispatch settings request).run scripted host).value ∧
      (∃ intents : List Intent,
        shown = intents.map (fun intent => (Notice.intended intent).line) ∧
          Mirrors intents ((dispatch settings request).history scripted host)) ∧
      shown.map LogLine.text =
        ["DRY RUN: unmount /mnt".toList,
          "DRY RUN: wipe boot sector of /dev/sda".toList,
          "DRY RUN: parted -s /dev/sda unit GB mklabel msdos mkpart primary 0 5.0".toList,
          "DRY RUN: parted -s /dev/sda unit GB mkpart primary 5.0 100".toList,
          "DRY RUN: wait 2s for device nodes".toList,
          "DRY RUN: unmount /dev/sda1 if mounted".toList,
          "DRY RUN: mkfs.ext4 -FF /dev/sda1".toList] := by
  intro host settings request dry shown
  have otherwise : ¬ ScriptedHost.firstDisk.BeginsAsDryRun := by decide
  obtain ⟨same, wiping, opening, steps, closing, later, -, lines, reports, history, wiped, carried, -⟩ :=
    dry_run_tells_truth settings request ScriptedHost.firstDisk host rfl rfl (labelled_oneDisk _)
  obtain rfl : opening = [] := by
    by_contra some
    exact otherwise (reports.opening_iff.mp some).2
  obtain rfl : closing = [] := by
    by_contra some
    exact otherwise (reports.closing_iff.mp some).2
  have exactly : shown = (wiping ++ steps).map fun intent => (Notice.intended intent).line := by
    refine lines.trans ?_
    rw [List.append_nil, List.append_nil, ← List.map_append, List.map_map]
    rfl
  exact ⟨same, ⟨_, exactly, history ▸ wiped.append carried⟩, by decide +kernel⟩

/-- The text of an intent does not begin as the name of a whole disk. -/
theorem head?_intent_ne (intent : Intent) : intent.text.head? ≠ some 's' := by
  have u : some 'u' ≠ some 's' := by decide
  have w : some 'w' ≠ some 's' := by decide
  have p : some 'p' ≠ some 's' := by decide
  have m : some 'm' ≠ some 's' := by decide
  cases intent with
  | unmount point => exact u
  | wipe disk => exact w
  | step planned =>
    cases planned with
    | createSystemPartition disk bounds => exact p
    | createRawPartition disk bounds => exact p
    | settle delay => exact w
    | releaseMounts device => exact u
    | format device force => exact m

/-- Three lines of the dry run of a disk that has such a name stand for nothing that is done, so
that there are no intents of which these are the lines. -/
theorem named_disk_tells_more :
    let disk : Path := ⟨"DRY RUN: sda".toList⟩
    let host := { ScriptedHost.oneDisk [] with blockDevices := [disk] }
    let settings := Settings.standard []
    let request : CommandLine.Request :=
      { CommandLine.Request.empty with disk := some disk, reformat := true }
    let dry := { request with dryRun := true }
    let shown := ((dispatch settings dry).run scripted host).log.filter LogLine.isDryRun
    CommandLine.parse ["--reformat".toList, "--dry_run".toList, disk.text] = .ok dry ∧
      request.selected = .partition disk ∧ host.failures = ⟨none, none, none, none⟩ ∧
      (∀ reply ∈ host.replies.head?, ¬ Survey.SummaryUnlabelled reply.output) ∧
      shown.map LogLine.text =
        ["DRY RUN: wipe boot sector of DRY RUN: sda".toList,
          "DRY RUN: sda reformatted".toList,
          "DRY RUN: sda was just wiped, skipping partition check".toList,
          "DRY RUN: parted -s DRY RUN: sda unit GB mklabel msdos mkpart primary 0 5.0".toList,
          "DRY RUN: parted -s DRY RUN: sda unit GB mkpart primary 5.0 100".toList,
          "DRY RUN: wait 2s for device nodes".toList,
          "DRY RUN: unmount DRY RUN: sda1 if mounted".toList,
          "DRY RUN: mkfs.ext4 -FF DRY RUN: sda1".toList,
          "DRY RUN: sda partitioned: 100 GB total, 5.0 GB system, 95.0 GB raw".toList] ∧
      ¬ ∃ intents : List Intent,
        shown = intents.map fun intent => (Notice.intended intent).line := by
  intro disk host settings request dry shown
  refine ⟨by decide +kernel, rfl, rfl, labelled_oneDisk [], by decide +kernel, ?_⟩
  rintro ⟨intents, lines⟩
  have reformatted : (Notice.reformatted disk).line ∈ shown := by decide +kernel
  rw [lines] at reformatted
  obtain ⟨intent, -, same⟩ := List.mem_map.mp reformatted
  have text : "DRY RUN: ".toList ++ intent.text = "DRY RUN: ".toList ++ "sda reformatted".toList :=
    congrArg LogLine.text same
  exact head?_intent_ne intent (congrArg List.head? (List.append_cancel_left text))

end Session

end DiskPrep
