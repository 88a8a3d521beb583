import DiskPrep.Proofs.Parted
import DiskPrep.Proofs.Session.DryRun
import DiskPrep.Proofs.Session.FirstFailure
import DiskPrep.Proofs.Session.Notices

/-!
What a dry run tells of and what a run does. The intents are mirrored by a history when they were
carried out in it, each once and in order, and nothing else was done (`Mirrors`). A run rehearses
another when it comes to the same and tells of what the other does (`Rehearsed`); such runs are
joined like their parts (`Rehearsed.bind`). A layout completes the steps that its dry run tells
of (`Layout.rehearsed_execute`), a reformat releases and wipes what its own does
(`Reformat.rehearsed_reformat`).
-/
namespace DiskPrep

open Workflow

section mirrors

variable {σ : Type}

/-- The requests carry out what was told of, in the very words that were told. A release that
depends on the mounts looks them up first, and releases none but those of its device. -/
inductive Fulfilled : Intent → List (Moment σ) → Prop
  | unmount {m : Moment σ} {point : Path} (asked : m.call = .unmount point) :
      Fulfilled (.unmount point) [m]
  | wipe {m : Moment σ} {disk : Path} (asked : m.call = .wipeBootSector disk) :
      Fulfilled (.wipe disk) [m]
  | parted {m : Moment σ} {step : Step} {disk : Path} {script : Parted.Script}
      (asked : m.call = .parted disk script)
      (words : step.text = "parted ".toList ++ Text.spaced (script.arguments disk)) :
      Fulfilled (.step step) [m]
  | format {m : Moment σ} {step : Step} {device : Path} {force : Bool}
      (asked : m.call = .formatExt4 device force)
      (words : step.text = "mkfs.ext4 ".toList ++ Text.spaced (formatArguments device force)) :
      Fulfilled (.step step) [m]
  | settle {m : Moment σ} {step : Step} {delay : Delay} (asked : m.call = .settle delay)
      (words : step.text = "wait ".toList ++ delay.text ++ " for device nodes".toList) :
      Fulfilled (.step step) [m]
  | release {step : Step} {device : Path} {met : σ} {table : Text} {released : List (Moment σ)}
      (words : step.text = "unmount ".toList ++ device.text ++ " if mounted".toList)
      (own : ∀ m ∈ released, ∃ entry ∈ MountEntry.parseTable table,
        entry.source = device.text ∧ m.call = .unmount entry.mountPoint) :
      Fulfilled (.step step) (⟨met, .readMounts, .ok table⟩ :: released)

/-- The intents were carried out, each once and in order, and every other request only looks. -/
inductive Mirrors : List Intent → List (Moment σ) → Prop
  | nil : Mirrors [] []
  | look {m : Moment σ} {intents : List Intent} {history : List (Moment σ)}
      (looks : m.call.Looks) (rest : Mirrors intents history) : Mirrors intents (m :: history)
  | carry {intent : Intent} {part : List (Moment σ)} {intents : List Intent}
      {history : List (Moment σ)} (fulfilled : Fulfilled intent part)
      (rest : Mirrors intents history) : Mirrors (intent :: intents) (part ++ history)

theorem Mirrors.append {first second : List Intent} {earlier later : List (Moment σ)}
    (left : Mirrors first earlier) (right : Mirrors second later) :
    Mirrors (first ++ second) (earlier ++ later) := by
  induction left with
  | nil => exact right
  | look looks _ ih => exact .look looks ih
  | carry fulfilled _ ih =>
    rw [List.append_assoc]
    exact .carry fulfilled ih

theorem mirrors_of_looks {history : List (Moment σ)} (looks : ∀ m ∈ history, m.call.Looks) :
    Mirrors [] history := by
  induction history with
  | nil => exact .nil
  | cons m rest ih =>
    obtain ⟨here, later⟩ := List.forall_mem_cons.mp looks
    exact .look here (ih later)

theorem mirrors_unmounts {points : List Path} {history : List (Moment σ)}
    (asked : history.map Moment.call = points.map Call.unmount) :
    Mirrors (points.map Intent.unmount) history := by
  induction points generalizing history with
  | nil =>
    rw [List.map_eq_nil_iff.mp asked]
    exact .nil
  | cons point rest ih =>
    obtain ⟨m, later, rfl, call, others⟩ := List.map_eq_cons_iff.mp asked
    exact .carry (.unmount call) (ih others)

end mirrors

def Intent.isStep : Intent → Bool
  | step _ => true
  | _ => false

/-- A dry run and one that is none come to the same value, and the second carries out what the
first tells of, which is the steps of a layout or none. -/
structure Rehearsed {α : Type} (ofSteps : Bool) (dry real : Workflow α)
    (first second : ScriptedHost) : Prop where
  value : (dry.run scripted first).value = (real.run scripted second).value
  kind : ∀ intent ∈ dry.intents scripted first, intent.isStep = ofSteps
  mirrors : Mirrors (dry.intents scripted first) (real.history scripted second)

/-- Runs that only look and tell of nothing rehearse one another when they come to the same. -/
theorem rehearsed_of_looks {α : Type} {ofSteps : Bool} {dry real : Workflow α}
    {first second : ScriptedHost}
    (value : (dry.run scripted first).value = (real.run scripted second).value)
    (quiet : dry.intents scripted first = [])
    (looks : ∀ m ∈ real.history scripted second, m.call.Looks) :
    Rehearsed ofSteps dry real first second where
  value := value
  kind := by
    intro intent member
    rw [quiet] at member
    exact absurd member List.not_mem_nil
  mirrors := by
    rw [quiet]
    exact mirrors_of_looks looks

/-- What follows is rehearsed with the value that both have come to. -/
theorem Rehearsed.bind {α β : Type} {ofSteps : Bool} {dry real : Workflow α}
    {f f' : α → Workflow β} {first second : ScriptedHost}
    (rehearsed : Rehearsed ofSteps dry real first second)
    (next : ∀ value, Rehearsed ofSteps (f value) (f' value) (dry.run scripted first).state
      (real.run scripted second).state) :
    Rehearsed ofSteps (dry.bind f) (real.bind f') first second := by
  have later := next (dry.run scripted first).value
  have same := rehearsed.value
  constructor
  · rw [run_bind_value, run_bind_value, ← same]
    exact later.value
  · rw [intents_bind]
    exact List.forall_mem_append.mpr ⟨rehearsed.kind, later.kind⟩
  · rw [intents_bind, history_bind, ← same]
    exact rehearsed.mirrors.append later.mirrors

theorem rehearsed_done {α : Type} {ofSteps : Bool} (value : α) (first second : ScriptedHost) :
    Rehearsed ofSteps (done value) (done value) first second :=
  rehearsed_of_looks rfl rfl fun _ member => absurd member List.not_mem_nil

/-- A notice of both runs that tells of no intent does not matter. -/
theorem Rehearsed.say {α : Type} {ofSteps : Bool} {dry real : Workflow α}
    {first second : ScriptedHost} {notice : Notice} (plain : notice.intent? = none)
    (rehearsed : Rehearsed ofSteps dry real first second) :
    Rehearsed ofSteps (.say notice dry) (.say notice real) first second := by
  obtain ⟨value, kind, mirrors⟩ := rehearsed
  have same := intents_say scripted first plain dry
  exact ⟨value, same ▸ kind, same ▸ mirrors⟩

namespace Step

/-- A run of the tool that asks nothing is shown by its arguments. -/
theorem partedText_eq {script : Parted.Script} (mode : script.mode = .script)
    (nonempty : script.words ≠ []) (disk : Path) :
    partedText disk script = "parted ".toList ++ Text.spaced (script.arguments disk) := by
  have flag : script.mode.flag = "-s".toList := by rw [mode, Parted.Mode.flag]
  have flagged : "parted -s ".toList = "parted ".toList ++ ("-s".toList ++ [' ']) := by decide
  have parts (behind : Text) : "parted -s ".toList ++ behind =
      "parted ".toList ++ ("-s".toList ++ ' ' :: behind) := by
    rw [flagged, List.append_assoc, List.append_assoc, List.singleton_append]
  rw [Parted.Script.spaced_arguments nonempty, flag, ← parts, ← List.append_assoc]
  rfl

theorem words_partitionScript (freshLabel : Bool) (bounds : Bounds) :
    (partitionScript freshLabel bounds).words ≠ [] := by
  intro bare
  cases (Parted.Script.words_eq_nil_iff.mp bare).1

/-- A step that was completed was carried out as it is told. -/
theorem Completed.fulfilled {σ : Type} {step : Step} {part : List (Moment σ)}
    (completed : step.Completed part) : Fulfilled (.step step) part := by
  obtain ⟨table, read, asked, succeeded⟩ := completed
  cases step with
  | createSystemPartition disk bounds =>
    obtain ⟨m, rfl, call⟩ := List.map_eq_singleton_iff.mp asked
    exact .parted call (partedText_eq rfl (words_partitionScript true bounds) disk)
  | createRawPartition disk bounds =>
    obtain ⟨m, rfl, call⟩ := List.map_eq_singleton_iff.mp asked
    exact .parted call (partedText_eq rfl (words_partitionScript false bounds) disk)
  | settle delay =>
    obtain ⟨m, rfl, call⟩ := List.map_eq_singleton_iff.mp asked
    exact .settle call rfl
  | format device force =>
    obtain ⟨m, rfl, call⟩ := List.map_eq_singleton_iff.mp asked
    exact .format call rfl
  | releaseMounts device =>
    obtain ⟨⟨met, call, reply⟩, released, rfl, rfl, others⟩ := List.map_eq_cons_iff.mp asked
    cases reply with
    | error cause => cases succeeded _ List.mem_cons_self
    | ok answer =>
      obtain rfl : answer = table := read answer ⟨met, List.mem_cons_self⟩
      refine .release rfl ?_
      intro m member
      have call : m.call ∈ released.map Moment.call := List.mem_map_of_mem member
      rw [others] at call
      obtain ⟨point, listed, releases⟩ := List.mem_map.mp call
      obtain ⟨entry, here, own, rfl⟩ :=
        MountEntry.mem_pointsOf_iff.mp (MountEntry.mem_deepestFirst.mp listed)
      exact ⟨entry, here, own, releases.symm⟩

theorem mirrors_completed {σ : Type} {steps : List Step} {history : List (Moment σ)}
    (completed : AllCompleted steps history) : Mirrors (steps.map Intent.step) history := by
  obtain ⟨parts, each, rfl⟩ := completed
  induction each with
  | nil => exact .nil
  | cons here _ ih => exact .carry here.fulfilled ih

end Step

namespace Layout

variable {host : ScriptedHost}

theorem perform_works (works : host.failures = ⟨none, none, none, none⟩) (step : Step) :
    ((perform step).run scripted host).value = .ok () := by
  have partitions : ∀ disk freshLabel bounds,
      (scripted.answer (.parted disk (Step.partitionScript freshLabel bounds)) host).reply =
        .ok [] := by
    intro disk freshLabel bounds
    have changes : (Step.partitionScript freshLabel bounds).isQuery = false := by
      cases freshLabel <;> rfl
    simp only [ScriptedHost.scripted_answer, ScriptedHost.answer, ScriptedHost.answerParted,
      changes, Bool.false_eq_true, if_false, ScriptedHost.recording, works,
      ScriptedHost.toolAnswer]
    rfl
  cases step with
  | createSystemPartition disk bounds =>
    exact congrArg (Except.map fun _ => ()) (partitions disk true bounds)
  | createRawPartition disk bounds =>
    exact congrArg (Except.map fun _ => ()) (partitions disk false bounds)
  | settle delay => rfl
  | releaseMounts device =>
    rw [perform, ← (run_silent scripted _ host).1, silent_releaseMounts, run_ask_value]
    exact releaseEach_works (congrArg ToolFailures.unmount works)
  | format device force =>
    simp only [perform, request, run_ask_value, run_done_value, ScriptedHost.scripted_answer,
      ScriptedHost.answer, works, ScriptedHost.toolAnswer]

/-- Where all tools work, a layout ends well. -/
theorem performAll_works (works : host.failures = ⟨none, none, none, none⟩) (steps : List Step) :
    ((performAll steps).run scripted host).value = .ok () := by
  induction steps generalizing host with
  | nil => rfl
  | cons step rest ih =>
    rw [performAll, bind_eq, run_bind_value, perform_works works step]
    exact ih ((ScriptedHost.run_failures _ host).trans works)

theorem intents_tellAll (steps : List Step) {σ : Type} (host : Host σ) (state : σ) :
    (tellAll steps).intents host state = steps.map Intent.step := by
  induction steps with
  | nil => rfl
  | cons step rest ih => exact congrArg (Intent.step step :: ·) ih

/-- A layout completes the steps that its dry run tells of. -/
theorem rehearsed_execute (disk : Path) (plan : Plan) (forced : Bool) (delay : Delay)
    {first second : ScriptedHost} (works : second.failures = ⟨none, none, none, none⟩) :
    Rehearsed true (execute disk plan ⟨true, forced, delay⟩)
      (execute disk plan ⟨false, forced, delay⟩) first second := by
  have told : (execute disk plan ⟨true, forced, delay⟩).intents scripted first =
      (Step.forPlan disk plan forced delay).map Intent.step :=
    intents_tellAll _ scripted first
  have real : ((execute disk plan ⟨false, forced, delay⟩).run scripted second).value =
      .ok () :=
    performAll_works works _
  constructor
  · rw [real, ← (run_silent scripted _ first).1, silent_execute_dry]
    rfl
  · intro intent member
    rw [told] at member
    obtain ⟨step, -, rfl⟩ := List.mem_map.mp member
    rfl
  · rw [told]
    have ended := @execute_ended _ scripted second disk plan forced delay
    rw [real] at ended
    exact Step.mirrors_completed ended

end Layout

namespace Reformat

theorem intents_releaseAll (points : List Path) {σ : Type} (host : Host σ) (state : σ) :
    (releaseAll true points).intents host state = points.map Intent.unmount := by
  induction points with
  | nil => rfl
  | cons point rest ih => exact congrArg (Intent.unmount point :: ·) ih

theorem intents_wipe (disk : Path) (host : ScriptedHost) :
    (wipe disk true).intents scripted host =
      (MountEntry.pointsUnder (MountEntry.parseTable host.mounts) disk).map Intent.unmount ++
        [.wipe disk] := by
  simp only [wipe, bind_eq, request, Workflow.bind, intents_ask, ScriptedHost.scripted_answer,
    ScriptedHost.answer, intents_bind, intents_releaseAll]
  rw [← (run_silent scripted (releaseAll true _) _).1, silent_releaseAll_dry]
  rfl

/-- A wipe releases what a dry one tells of, and then writes the sector. -/
theorem mirrors_wipe (disk : Path) {host : ScriptedHost} (works : host.failures.unmount = none) :
    Mirrors ((wipe disk true).intents scripted host) ((wipe disk false).history scripted host) := by
  have still_works : (host.recording .readMounts).failures.unmount = none := works
  have made := @releaseEach_made _ scripted (host.recording .readMounts)
    (MountEntry.pointsUnder (MountEntry.parseTable host.mounts) disk)
  rw [releaseEach_works still_works] at made
  rw [intents_wipe, ← history_silent, silent_wipe, history_ask]
  refine .look .readMounts ?_
  simp only [ScriptedHost.scripted_answer, ScriptedHost.answer, history_bind,
    releaseEach_works still_works]
  exact Mirrors.append (mirrors_unmounts made.asked) (.carry (.wipe rfl) .nil)

theorem rehearsed_wipe (disk : Path) {host : ScriptedHost} (works : host.failures.unmount = none) :
    Rehearsed false (wipe disk true) (wipe disk false) host host where
  value := by
    rw [wipe_works works, ← (run_silent scripted _ host).1, silent_wipe_dry]
    rfl
  kind := by
    intro intent member
    rw [intents_wipe] at member
    rcases List.mem_append.mp member with releases | wipes
    · obtain ⟨point, -, rfl⟩ := List.mem_map.mp releases
      rfl
    · rw [List.mem_singleton.mp wipes]
      rfl
  mirrors := mirrors_wipe disk works

/-- A reformat of a path does what its dry run tells of. -/
theorem rehearsed_reformat (path : Path) {host : ScriptedHost}
    (works : host.failures.unmount = none) :
    Rehearsed false (reformat (some path) true) (reformat (some path) false) host host := by
  have looks : ∀ m ∈ (target (some path)).history scripted host, m.call.Looks :=
    fun m member => Call.looks_of_reads (mem_target member)
  refine Rehearsed.bind (rehearsed_of_looks rfl (tells_target path _).intents_eq_nil looks) ?_
  intro found
  cases found with
  | error failure => exact rehearsed_done _ _ _
  | ok found =>
    cases found with
    | none => exact .say rfl (rehearsed_done _ _ _)
    | some disk =>
      have still_works : ((target (some path)).run scripted host).state.failures.unmount = none := by
        rw [ScriptedHost.run_failures]
        exact works
      refine Rehearsed.bind (rehearsed_wipe disk still_works) ?_
      intro wiped
      cases wiped <;> exact rehearsed_done _ _ _

end Reformat

end DiskPrep
