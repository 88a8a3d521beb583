import DiskPrep.Proofs.Run.Told
import DiskPrep.Proofs.Session.Dispatch

/-!
What a dry run of a disk tells besides its intents. Its other notices begin differently, but for
those that begin with the name of the disk when that begins like an intent: that it was reformatted,
before the steps, and that it was partitioned, behind them (`marked_dispatch`).
-/
namespace DiskPrep

open Workflow

/-- The path begins as the lines of a dry run do. -/
def Path.BeginsAsDryRun (path : Path) : Prop := "DRY RUN: ".toList <+: path.text

instance (path : Path) : Decidable path.BeginsAsDryRun :=
  inferInstanceAs (Decidable ("DRY RUN: ".toList <+: path.text))

theorem s_mem_of_isWholeDisk {disk : Path} (whole : isWholeDisk disk = true) : 's' ∈ disk.text := by
  obtain ⟨front, letter, text, -⟩ := isWholeDisk_iff.mp whole
  rw [text]
  simp

/-- What begins with a disk's name begins as a dry run's line only by the name, whose letters at its
end are none of that beginning. -/
theorem begins_append_iff {name : Text} (letter : 's' ∈ name) (rest : Text) :
    "DRY RUN: ".toList <+: name ++ rest ↔ "DRY RUN: ".toList <+: name := by
  constructor
  · intro begins
    rcases List.prefix_or_prefix_of_prefix begins (List.prefix_append name rest) with short | long
    · exact short
    · exact absurd (long.subset letter) (by decide)
  · intro begins
    exact begins.trans (List.prefix_append name rest)

/-- A path begins as its disk does. -/
theorem beginsAsDryRun_stem_iff {path : Path} (whole : isWholeDisk path.stem = true) :
    path.stem.BeginsAsDryRun ↔ path.BeginsAsDryRun := by
  obtain ⟨number, text⟩ := path.stem_prefix
  rw [Path.BeginsAsDryRun, Path.BeginsAsDryRun, ← text]
  exact (begins_append_iff (s_mem_of_isWholeDisk whole) number).symm

/-- A notice that begins with the name of a whole disk begins as a dry run's line by that name. -/
theorem isDryRun_named_iff {notice : Notice} {disk : Path} {rest : Text}
    (text : notice.text = disk.text ++ rest) (whole : isWholeDisk disk = true) :
    notice.isDryRun = true ↔ disk.BeginsAsDryRun := by
  refine List.isPrefixOf_iff_prefix.trans ?_
  rw [Notice.line, text]
  exact begins_append_iff (s_mem_of_isWholeDisk whole) rest

/-- Such a notice is left over among those that begin as a dry run's lines by that name only. -/
theorem filter_named {notice : Notice} {disk : Path} {rest : Text}
    (text : notice.text = disk.text ++ rest) (whole : isWholeDisk disk = true) :
    let kept := [notice].filter Notice.isDryRun
    (kept = [] ∨ kept = [notice]) ∧ (kept ≠ [] ↔ disk.BeginsAsDryRun) := by
  intro kept
  have begins := isDryRun_named_iff text whole
  by_cases marked : notice.isDryRun = true
  · have kept_eq : kept = [notice] := List.filter_cons_of_pos marked
    rw [kept_eq]
    exact ⟨Or.inr rfl, iff_of_true (List.cons_ne_nil _ _) (begins.mp marked)⟩
  · have kept_eq : kept = [] := List.filter_cons_of_neg marked
    rw [kept_eq]
    exact ⟨Or.inl rfl, iff_of_false (fun some => some rfl) (fun named => marked (begins.mpr named))⟩

/-- Nothing is told while the disk of a path is looked up. -/
theorem Reformat.tells_target (path : Path) (P : Notice → Prop) : (target (some path)).Tells P := by
  refine Tells.bind ?_ ?_
  · intro kind
    cases kind with
    | error cause => trivial
    | ok kind => cases kind <;> trivial
  · intro checked
    cases checked with
    | error failure => trivial
    | ok _ =>
      dsimp only
      split <;> trivial

/-- A dry reformat tells of intents, and all else begins differently. -/
theorem Reformat.tells_reformat (path : Path) :
    (reformat (some path) true).Tells Notice.Unambiguous := by
  have releases : ∀ points, (releaseAll true points).Tells Notice.Unambiguous := by
    intro points
    induction points with
    | nil => trivial
    | cons point rest ih => exact ⟨Notice.unambiguous_intended _, ih⟩
  have wipes : ∀ disk, (wipe disk true).Tells Notice.Unambiguous := by
    intro disk
    refine Tells.bind (fun _ => trivial) ?_
    intro table
    cases table with
    | error cause => trivial
    | ok table =>
      refine Tells.bind (releases _) ?_
      intro released
      cases released with
      | error failure => trivial
      | ok _ => exact ⟨Notice.unambiguous_intended _, trivial⟩
  refine Tells.bind (tells_target path _) ?_
  intro found
  cases found with
  | error failure => trivial
  | ok found =>
    cases found with
    | none => exact ⟨fun _ => rfl, trivial⟩
    | some disk =>
      refine Tells.bind (wipes disk) ?_
      intro wiped
      cases wiped <;> trivial

namespace Session

section anyHost

variable {σ : Type} {host : Host σ} {state : σ} {disk : Path}

theorem told_checkBlockDevice : (Reformat.checkBlockDevice disk).told host state = [] := by
  simp only [Reformat.checkBlockDevice, bind_eq, request, Workflow.bind, told_ask]
  cases (host.answer (.nodeKind disk) state).reply with
  | error cause => rfl
  | ok kind => cases kind <;> rfl

theorem told_checkUnpartitioned : (checkUnpartitioned disk).told host state = [] := by
  simp only [checkUnpartitioned, Discovery.partitions?, Discovery.readRows, bind_eq, request,
    pure_eq, Workflow.bind, told_ask]
  split <;> rfl

/-- The checks tell at most that the last of them is left out, and that of a whole disk only. -/
theorem told_validate (flags : RunFlags) :
    (validate disk flags).told host state = [] ∨
      (validate disk flags).told host state = [.skippingPartitionCheck disk] ∧
        flags.reformatted = true ∧ isWholeDisk disk = true := by
  rw [validate, bind_eq, told_bind, told_checkBlockDevice, List.nil_append]
  split
  next => exact Or.inl rfl
  next =>
    by_cases partition : isPartition disk = true
    · rw [if_pos partition]
      exact Or.inl rfl
    · have whole : isWholeDisk disk = true := by simpa [isPartition] using partition
      rw [if_neg partition]
      by_cases wiped : flags.reformatted = true
      · rw [if_pos wiped]
        exact Or.inr ⟨rfl, wiped, whole⟩
      · rw [if_neg wiped]
        exact Or.inl told_checkUnpartitioned

theorem intents_validate (flags : RunFlags) : (validate disk flags).intents host state = [] := by
  rw [intents]
  rcases @told_validate σ host state disk flags with told | ⟨told, -⟩ <;> rw [told] <;> rfl

/-- Of what the checks tell, only that one is left out may begin as a dry run's line, by the name of
the disk. -/
theorem marked_validate (flags : RunFlags) :
    let marked := (validate disk flags).marked host state
    (marked = [] ∨ marked = [.skippingPartitionCheck disk]) ∧
      (marked ≠ [] → flags.reformatted = true ∧ disk.BeginsAsDryRun) := by
  intro marked
  rcases @told_validate σ host state disk flags with told | ⟨told, wiped, whole⟩
  · have none_marked : marked = [] := congrArg (List.filter Notice.isDryRun) told
    exact ⟨Or.inl none_marked, fun some => absurd none_marked some⟩
  · have one : marked = [.skippingPartitionCheck disk].filter Notice.isDryRun :=
      congrArg (List.filter Notice.isDryRun) told
    obtain ⟨kept, begins⟩ :=
      filter_named (show (Notice.skippingPartitionCheck disk).text = disk.text ++ _ from rfl) whole
    rw [one]
    exact ⟨kept, fun some => ⟨wiped, begins.mp some⟩⟩

theorem tells_probe : (Survey.probe disk).Tells fun notice =>
    notice.intent? = none ∧ notice.isDryRun = false := by
  refine Tells.bind ?_ ?_
  · intro reply
    trivial
  · intro answer
    cases answer with
    | error cause => exact ⟨⟨rfl, rfl⟩, trivial⟩
    | ok geometry => trivial

theorem tells_execute (plan : Plan) (forced : Bool) (delay : Delay) :
    (Layout.execute disk plan ⟨true, forced, delay⟩).Tells Notice.Unambiguous := by
  refine ⟨fun _ => rfl, ?_⟩
  generalize Step.forPlan disk plan forced delay = steps
  induction steps with
  | nil => trivial
  | cons step rest ih => exact ⟨Notice.unambiguous_intended _, ih⟩

/-- Of what the dry run of a layout tells, the steps begin as a dry run's lines, and by the name of
the disk that it is partitioned. -/
theorem marked_partitionSized (settings : Settings) (forced reformatted : Bool) (total : Nat)
    (whole : isWholeDisk disk = true) :
    let dry := partitionSized settings disk ⟨true, forced, reformatted⟩ total
    (dry.run host state).value = .ok () ∧
      ∃ closing, dry.marked host state = (dry.intents host state).map .intended ++ closing ∧
        (closing = [] ∨ ∃ plan, closing = [.partitioned disk plan]) ∧
        (closing ≠ [] ↔ disk.BeginsAsDryRun) := by
  intro dry
  let plan := Plan.ofPercent total settings.systemPercent
  let layout := Layout.execute disk plan ⟨true, forced, settings.delay⟩
  have laid : (layout.run host state).value = .ok () := by
    rw [← (run_silent host _ state).1, Layout.silent_execute_dry]
    rfl
  have value : (dry.run host state).value = .ok () := by
    simp only [dry, partitionSized, bind_eq, run_bind_value, plan, layout, laid]
    rfl
  have intents_eq : dry.intents host state = layout.intents host state := by
    rw [show dry = layout.bind _ from rfl, intents_bind, laid]
    exact List.append_nil _
  have marked_eq : dry.marked host state =
      layout.marked host state ++ [.partitioned disk plan].filter Notice.isDryRun := by
    rw [show dry = layout.bind _ from rfl, marked_bind, laid]
    rfl
  have text : (Notice.partitioned disk plan).text =
      disk.text ++ (" partitioned: ".toList ++ plan.text) := List.append_assoc _ _ _
  obtain ⟨kept, begins⟩ := filter_named text whole
  refine ⟨value, _, ?_, kept.imp_right fun one => ⟨plan, one⟩, begins⟩
  rw [marked_eq, intents_eq, (tells_execute plan forced settings.delay).marked_eq]

/-- Of what a dry run tells once the disk is checked, the steps begin as a dry run's lines, and by
the name of the disk that it is partitioned, when it comes to that. -/
theorem marked_sized (settings : Settings) (forced reformatted : Bool)
    (whole : isWholeDisk disk = true) :
    let dry := (Survey.probe disk).bind fun geometry =>
      if geometry.isUsable then
        partitionSized settings disk ⟨true, forced, reformatted⟩ geometry.total
      else done (.error (.partitioningFailed "unable to determine disk size".toList))
    ∃ closing, dry.marked host state = (dry.intents host state).map .intended ++ closing ∧
      (closing = [] ∨ ∃ plan, closing = [.partitioned disk plan]) ∧
      (closing ≠ [] ↔ (dry.run host state).value = .ok () ∧ disk.BeginsAsDryRun) := by
  intro dry
  have probing : (Survey.probe disk).Tells Notice.Unambiguous :=
    tells_probe.mono fun _ quiet _ => quiet.2
  simp only [dry, marked_bind, intents_bind, run_bind_value, probing.marked_eq, List.map_append,
    List.append_assoc]
  generalize ((Survey.probe disk).run host state).state = later
  generalize ((Survey.probe disk).run host state).value = geometry
  by_cases usable : geometry.isUsable = true
  · obtain ⟨value, closing, marked, kept, begins⟩ :=
      @marked_partitionSized σ host later disk settings forced reformatted geometry.total whole
    simp only [if_pos usable]
    exact ⟨closing, congrArg _ marked, kept, begins.trans (iff_and_self.mpr fun _ => value)⟩
  · simp only [if_neg usable]
    refine ⟨[], rfl, Or.inl rfl, iff_of_false (fun some => some rfl) ?_⟩
    rintro ⟨success, -⟩
    cases success

/-- Of what a dry run of a disk tells, the intents begin as a dry run's lines. By the name of the
disk so may that a check is left out, before them, and that the disk is partitioned, behind them. -/
theorem marked_partitionDisk (settings : Settings) (forced reformatted : Bool) :
    let dry := partitionDisk settings disk ⟨true, forced, reformatted⟩
    ∃ opening closing,
      dry.marked host state = opening ++ (dry.intents host state).map .intended ++ closing ∧
      (opening = [] ∨ opening = [.skippingPartitionCheck disk]) ∧
      (opening ≠ [] → reformatted = true ∧ disk.BeginsAsDryRun) ∧
      (closing = [] ∨ ∃ plan, closing = [.partitioned disk plan]) ∧
      (closing ≠ [] ↔ (dry.run host state).value = .ok () ∧ disk.BeginsAsDryRun) := by
  intro dry
  let flags : RunFlags := ⟨true, forced, reformatted⟩
  obtain ⟨checking, waived⟩ := @marked_validate σ host state disk flags
  refine ⟨(validate disk flags).marked host state, ?_⟩
  simp only [show dry = (validate disk flags).bind _ from rfl, marked_bind, intents_bind,
    run_bind_value, intents_validate, List.nil_append, List.append_assoc]
  cases checked : ((validate disk flags).run host state).value with
  | error failure =>
    refine ⟨[], rfl, checking, waived, Or.inl rfl, iff_of_false (fun some => some rfl) ?_⟩
    rintro ⟨success, -⟩
    cases success
  | ok _ =>
    obtain ⟨closing, marked, kept, begins⟩ :=
      @marked_sized σ host ((validate disk flags).run host state).state disk settings forced
        reformatted (cleared_of_validate checked).whole
    exact ⟨closing, congrArg _ marked, checking, waived, kept, begins⟩

/-- Of what a dry reformat tells, the intents begin as a dry run's lines, and by the name of the
disk that it is reformatted, when it comes to that. -/
theorem marked_reformatFirst {request : CommandLine.Request} (isDry : request.dryRun = true)
    (named : request.disk = some disk) :
    let dry := reformatFirst request
    ∃ opening, dry.marked host state = (dry.intents host state).map .intended ++ opening ∧
      (opening = [] ∨ opening = [.reformatted disk.stem]) ∧
      (opening ≠ [] ↔ (request.reformat = true ∧ ∃ flags, (dry.run host state).value = .ok flags) ∧
        disk.BeginsAsDryRun) := by
  intro dry
  cases reformats : request.reformat with
  | false =>
    simp only [dry, reformatFirst_plain reformats]
    refine ⟨[], rfl, Or.inl rfl, iff_of_false (fun some => some rfl) ?_⟩
    rintro ⟨⟨other, -⟩, -⟩
    cases other
  | true =>
    have tells : (Reformat.reformat request.disk request.dryRun).Tells Notice.Unambiguous := by
      rw [named, isDry]
      exact Reformat.tells_reformat disk
    simp only [dry, reformatFirst_reformats reformats, marked_bind, intents_bind, run_bind_value,
      tells.marked_eq, List.map_append, List.append_assoc]
    cases ended : ((Reformat.reformat request.disk request.dryRun).run host state).value with
    | error failure =>
      refine ⟨[], rfl, Or.inl rfl, iff_of_false (fun some => some rfl) ?_⟩
      rintro ⟨⟨-, flags, success⟩, -⟩
      cases success
    | ok wiped =>
      rw [named] at ended
      obtain ⟨rfl, whole, -⟩ := Reformat.reformat_ok ended
      obtain ⟨kept, begins⟩ :=
        filter_named (show (Notice.reformatted disk.stem).text = disk.stem.text ++ _ from rfl) whole
      refine ⟨[.reformatted disk.stem].filter Notice.isDryRun, rfl, kept, ?_⟩
      rw [begins, beginsAsDryRun_stem_iff whole]
      exact iff_and_self.mpr fun _ => ⟨trivial, _, rfl⟩

end anyHost

/-- What a dry run says of its disk by name, where that begins as the lines of a dry run do: before
the steps that the disk is reformatted, and then at most that a check is left out, and behind the
steps that the disk is partitioned. -/
structure NamedReports (disk : Path) (reformatted partitioned : Prop)
    (opening closing : List Notice) : Prop where
  opening_prefix : opening <+: [.reformatted disk.stem, .skippingPartitionCheck disk]
  opening_iff : opening ≠ [] ↔ reformatted ∧ disk.BeginsAsDryRun
  closing_cases : closing = [] ∨ ∃ plan, closing = [.partitioned disk plan]
  closing_iff : closing ≠ [] ↔ partitioned ∧ disk.BeginsAsDryRun

section stages

variable {disk : Path} {reformats checks : List Notice}
  (kept : reformats = [] ∨ reformats = [.reformatted disk.stem])

include kept

theorem reformats_begin :
    reformats <+: [.reformatted disk.stem, .skippingPartitionCheck disk] := by
  rcases kept with rfl | rfl
  · exact List.nil_prefix
  · exact ⟨[.skippingPartitionCheck disk], rfl⟩

/-- What is said before the steps is said while the disk is reformatted, and then while it is
checked. -/
theorem opening_of_stages (checking : checks = [] ∨ checks = [.skippingPartitionCheck disk])
    (behind : checks ≠ [] → reformats ≠ []) :
    reformats ++ checks <+: [.reformatted disk.stem, .skippingPartitionCheck disk] ∧
      (reformats ++ checks ≠ [] ↔ reformats ≠ []) := by
  rcases checking with rfl | rfl
  · rw [List.append_nil]
    exact ⟨reformats_begin kept, Iff.rfl⟩
  · obtain rfl := kept.resolve_left (behind (List.cons_ne_nil _ _))
    exact ⟨List.prefix_refl _, iff_of_true (List.cons_ne_nil _ _) (List.cons_ne_nil _ _)⟩

end stages

/-- Of what a dry run tells, the intents begin as a dry run's lines, and what it says of its disk by
name. -/
theorem marked_dispatch {σ : Type} {host : Host σ} {state : σ} {settings : Settings}
    {request : CommandLine.Request} {disk : Path} (isDry : request.dryRun = true)
    (chosen : request.selected = .partition disk) :
    let first := reformatFirst request
    let dry := dispatch settings request
    ∃ opening steps closing,
      dry.intents host state = first.intents host state ++ steps ∧
      dry.marked host state =
        (first.intents host state).map .intended ++ opening ++ steps.map .intended ++ closing ∧
      NamedReports disk
        (request.reformat = true ∧ ∃ flags, (first.run host state).value = .ok flags)
        (∃ printed, (dry.run host state).value = .ok printed) opening closing := by
  intro first dry
  have named : request.disk = some disk := CommandLine.Request.disk_of_selected chosen
  obtain ⟨opening, marked, kept, begins⟩ :=
    @marked_reformatFirst σ host state disk request isDry named
  simp only [dry, dispatch_of_selected chosen, marked_bind, intents_bind, run_bind_value, first,
    marked]
  cases ended : ((reformatFirst request).run host state).value with
  | error failure =>
    rw [ended] at begins
    refine ⟨opening, [], [], rfl, ?_, reformats_begin kept, begins, Or.inl rfl,
      iff_of_false (fun some => some rfl) ?_⟩
    · rw [marked_done, List.map_nil, List.append_nil, List.append_nil]
    · rintro ⟨⟨printed, success⟩, -⟩
      cases success
  | ok flags =>
    rw [ended] at begins
    obtain ⟨flags_eq, -⟩ := reformatFirst_ok named ended
    obtain ⟨dryRun, forced, reformatted⟩ := flags
    obtain ⟨rfl, -, rfl⟩ := RunFlags.mk.inj flags_eq
    rw [isDry] at begins ⊢
    generalize ((reformatFirst request).run host state).state = later
    obtain ⟨skipped, closing, marked', checking, waived, closed, ends⟩ :=
      @marked_partitionDisk σ host later disk settings forced request.reformat
    let last := partitionDisk settings disk ⟨true, forced, request.reformat⟩
    have unless_skipped : skipped ≠ [] → opening ≠ [] := by
      intro some
      obtain ⟨reformats, names⟩ := waived some
      exact begins.mpr ⟨⟨reformats, _, rfl⟩, names⟩
    have opens := opening_of_stages kept checking unless_skipped
    refine ⟨opening ++ skipped, last.intents host later, closing, ?_, ?_, opens.1,
      opens.2.trans begins, closed, ?_⟩
    · rw [intents_bind, intents_done, List.append_nil]
    · rw [marked_bind, marked_done, List.append_nil, marked']
      simp only [last, List.append_assoc]
    · rw [ends, run_bind_value, run_done_value]
      refine and_congr_left fun _ => ?_
      cases (last.run host later).value <;> simp [Except.map]

end Session

end DiskPrep
