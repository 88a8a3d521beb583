import DiskPrep.Proofs.Session.PartitionTrace

/-!
A layout stops at its first failure. Each step stands for a list of requests
(`Step.requests`), which are made up to the first that fails (`perform_made`); the steps follow
one another up to the first that fails, which is the result together with its cause
(`performAll_stops`). What was done before it stays done, and nothing is asked after it.
-/
namespace DiskPrep

open Workflow

def failureOf {α : Type} : Except HostError α → Option HostError
  | .ok _ => none
  | .error cause => some cause

def Call.failure? : (call : Call) → call.Reply → Option HostError
  | .readPartitions, reply => failureOf reply
  | .readMounts, reply => failureOf reply
  | .isRoot, _ => none
  | .nodeKind _, reply => failureOf reply
  | .parted .., reply => failureOf reply
  | .wipeBootSector _, reply => failureOf reply
  | .formatExt4 .., reply => failureOf reply
  | .unmount _, reply => failureOf reply
  | .settle _, _ => none

section made

variable {σ : Type}

/-- Why the request failed, if it did. -/
def Moment.failure? (m : Moment σ) : Option HostError := m.call.failure? m.reply

/-- All of the requests were made, and none failed. -/
structure AllMade (requests : List Call) (part : List (Moment σ)) : Prop where
  asked : part.map Moment.call = requests
  succeeded : ∀ m ∈ part, m.failure? = none

/-- The requests were made up to one that failed with the cause, and no further. -/
structure MadeUntil (requests : List Call) (cause : HostError) (part : List (Moment σ)) :
    Prop where
  asked : part.map Moment.call <+: requests
  failed : ∃ before last, part = before ++ [last] ∧ (∀ m ∈ before, m.failure? = none) ∧
    last.failure? = some cause

/-- The requests were made as far as their end tells: all of them, or up to a failure. -/
def Made (requests : List Call) (part : List (Moment σ)) : Except HostError Unit → Prop
  | .ok () => AllMade requests part
  | .error cause => MadeUntil requests cause part

theorem made_nil : Made [] ([] : List (Moment σ)) (.ok ()) := by
  refine ⟨rfl, ?_⟩
  intro m member
  exact absurd member List.not_mem_nil

/-- A request that succeeded comes before what was made after it. -/
theorem Made.cons {requests : List Call} {part : List (Moment σ)} {value : Except HostError Unit}
    {m : Moment σ} (succeeds : m.failure? = none) (made : Made requests part value) :
    Made (m.call :: requests) (m :: part) value := by
  cases value with
  | ok _ => exact ⟨congrArg (m.call :: ·) made.asked,
      List.forall_mem_cons.mpr ⟨succeeds, made.succeeded⟩⟩
  | error cause =>
    obtain ⟨before, last, rfl, fine, fails⟩ := made.failed
    exact ⟨List.cons_prefix_cons.mpr ⟨rfl, made.asked⟩, m :: before, last, rfl,
      List.forall_mem_cons.mpr ⟨succeeds, fine⟩, fails⟩

/-- A request that failed is the last. -/
theorem made_failed {requests : List Call} {cause : HostError} {m : Moment σ}
    (fails : m.failure? = some cause) : Made (m.call :: requests) [m] (.error cause) := by
  refine ⟨List.cons_prefix_cons.mpr ⟨rfl, List.nil_prefix⟩, [], m, rfl, ?_, fails⟩
  intro other member
  exact absurd member List.not_mem_nil

/-- One request ends as it was answered. -/
theorem made_single {m : Moment σ} {value : Except HostError Unit}
    (ended : failureOf value = m.failure?) : Made [m.call] [m] value := by
  cases value with
  | ok _ => exact Made.cons ended.symm made_nil
  | error cause => exact made_failed ended.symm

/-- A request failed, where they were made up to a failure. -/
theorem MadeUntil.exists_failed {requests : List Call} {cause : HostError} {part : List (Moment σ)}
    (until_ : MadeUntil requests cause part) : ∃ m ∈ part, m.failure? = some cause := by
  obtain ⟨before, last, rfl, -, fails⟩ := until_.failed
  exact ⟨last, List.mem_append_right before List.mem_cons_self, fails⟩

variable {host : Host σ} {state : σ}

theorem releaseEach_made (points : List Path) :
    Made (points.map Call.unmount) ((releaseEach points).history host state)
      ((releaseEach points).run host state).value := by
  induction points generalizing state with
  | nil => exact made_nil
  | cons point rest ih =>
    rw [releaseEach, history_ask, run_ask_value]
    cases reply : (host.answer (.unmount point) state).reply with
    | error cause => exact made_failed (m := ⟨state, .unmount point, .error cause⟩) rfl
    | ok _ => exact Made.cons (m := ⟨state, .unmount point, .ok ()⟩) rfl ih

end made

namespace Step

/-- The requests of a step, in order. A release looks at the table of mounts first, and what it
asks for after that is up to the table. -/
def requests (table : Text) : Step → List Call
  | createSystemPartition disk bounds => [.parted disk (partitionScript true bounds)]
  | createRawPartition disk bounds => [.parted disk (partitionScript false bounds)]
  | settle delay => [.settle delay]
  | releaseMounts device =>
    .readMounts :: (MountEntry.deepestFirst
      (MountEntry.pointsOf (MountEntry.parseTable table) device)).map Call.unmount
  | format device force => [.formatExt4 device force]

section outcome

variable {σ : Type}

/-- A table of mounts that was read was this one. -/
def TableRead (table : Text) (part : List (Moment σ)) : Prop :=
  ∀ answer, Answered part .readMounts (.ok answer) → answer = table

def Completed (step : Step) (part : List (Moment σ)) : Prop :=
  ∃ table, TableRead table part ∧ AllMade (step.requests table) part

/-- The requests of the step were made up to one that failed with the cause. -/
def BrokenOff (step : Step) (cause : HostError) (part : List (Moment σ)) : Prop :=
  ∃ table, TableRead table part ∧ MadeUntil (step.requests table) cause part

/-- Each step was completed, one after the other, and that is all that happened. -/
def AllCompleted (steps : List Step) (history : List (Moment σ)) : Prop :=
  ∃ parts, List.Forall₂ Completed steps parts ∧ history = parts.flatten

/-- The steps before the one that failed were completed, that one was broken off with its cause,
and that is all that happened. -/
def StoppedAt (steps : List Step) (failure : StepFailure) (history : List (Moment σ)) : Prop :=
  ∃ before after parts last, steps = before ++ failure.step :: after ∧
    List.Forall₂ Completed before parts ∧ failure.step.BrokenOff failure.cause last ∧
    history = parts.flatten ++ last

variable {step : Step} {steps : List Step} {failure : StepFailure}
  {part history : List (Moment σ)}

theorem Completed.then_completed (completed : step.Completed part)
    (rest : AllCompleted steps history) : AllCompleted (step :: steps) (part ++ history) := by
  obtain ⟨parts, each, rfl⟩ := rest
  exact ⟨part :: parts, .cons completed each, rfl⟩

theorem Completed.then_stopped (completed : step.Completed part)
    (rest : StoppedAt steps failure history) : StoppedAt (step :: steps) failure (part ++ history) := by
  obtain ⟨before, after, parts, last, rfl, each, broken, rfl⟩ := rest
  exact ⟨step :: before, after, part :: parts, last, rfl, .cons completed each, broken,
    (List.append_assoc part parts.flatten last).symm⟩

theorem BrokenOff.stopped {cause : HostError} (broken : step.BrokenOff cause part) :
    StoppedAt (step :: steps) ⟨step, cause⟩ part :=
  ⟨[], steps, [], part, rfl, .nil, broken, rfl⟩

theorem AllCompleted.succeeded (completed : AllCompleted steps history) :
    ∀ m ∈ history, m.failure? = none := by
  obtain ⟨parts, each, rfl⟩ := completed
  induction each with
  | nil =>
    intro m member
    exact absurd member List.not_mem_nil
  | cons here _ ih =>
    obtain ⟨table, -, made⟩ := here
    rw [List.flatten_cons]
    exact List.forall_mem_append.mpr ⟨made.succeeded, ih⟩

theorem StoppedAt.exists_failed (stopped : StoppedAt steps failure history) :
    ∃ m ∈ history, m.failure? = some failure.cause := by
  obtain ⟨before, after, parts, last, -, -, ⟨table, -, made⟩, rfl⟩ := stopped
  obtain ⟨m, member, fails⟩ := made.exists_failed
  exact ⟨m, List.mem_append_right _ member, fails⟩

/-- What happened is what the end tells: every step was completed, or they stopped at one. -/
def Ended (steps : List Step) (history : List (Moment σ)) : Except StepFailure Unit → Prop
  | .ok () => AllCompleted steps history
  | .error failure => StoppedAt steps failure history

/-- The end is known from what happened. -/
theorem Ended.ok_iff {value : Except StepFailure Unit} (ended : Ended steps history value) :
    value = .ok () ↔ AllCompleted steps history := by
  cases value with
  | ok _ => exact iff_of_true rfl ended
  | error failure =>
    constructor
    · intro success
      cases success
    · intro completed
      obtain ⟨m, member, fails⟩ := StoppedAt.exists_failed ended
      rw [completed.succeeded m member] at fails
      cases fails

end outcome

end Step

namespace Layout

section anyHost

variable {σ : Type} {host : Host σ} {state : σ}

theorem tableRead_of_unread {table : Text} {part : List (Moment σ)}
    (unread : ∀ m ∈ part, m.call ≠ .readMounts) : Step.TableRead table part := by
  intro answer read
  exact absurd read (not_answered unread)

/-- A release reads the table of mounts, and is over when it can not. -/
theorem releaseMounts_made (device : Path) :
    ∃ table, Step.TableRead table ((releaseMounts device).history host state) ∧
      Made ((Step.releaseMounts device).requests table) ((releaseMounts device).history host state)
        ((releaseMounts device).run host state).value := by
  rw [← history_silent, ← (run_silent host _ state).1, silent_releaseMounts, history_ask,
    run_ask_value]
  cases read : (host.answer .readMounts state).reply with
  | error cause =>
    refine ⟨[], ?_, made_failed (m := ⟨state, .readMounts, .error cause⟩) rfl⟩
    rintro table ⟨met, member⟩
    cases List.mem_singleton.mp member
  | ok table =>
    refine ⟨table, ?_, Made.cons (m := ⟨state, .readMounts, .ok table⟩) rfl (releaseEach_made _)⟩
    rintro answer ⟨met, member⟩
    rcases List.mem_cons.mp member with same | releases
    · cases same
      rfl
    · obtain ⟨point, -, call⟩ := mem_releaseEach releases
      cases call

/-- A step of one request ends as the request was answered. -/
theorem single_made {step : Step} {call : Call} {reply : call.Reply}
    {value : Except HostError Unit} (one : ∀ table, step.requests table = [call])
    (other : call ≠ .readMounts) (ended : failureOf value = call.failure? reply) :
    ∃ table, Step.TableRead table [⟨state, call, reply⟩] ∧
      Made (step.requests table) [⟨state, call, reply⟩] value := by
  refine ⟨[], tableRead_of_unread (List.forall_mem_singleton.mpr other), ?_⟩
  rw [one]
  exact made_single (m := ⟨state, call, reply⟩) ended

/-- The requests of a step are made up to the first that fails, whose cause is the value. -/
theorem perform_made (step : Step) :
    ∃ table, Step.TableRead table ((perform step).history host state) ∧
      Made (step.requests table) ((perform step).history host state)
        ((perform step).run host state).value := by
  -- What the tool prints when it makes a partition is not looked at.
  have printed : ∀ answer : Except HostError Text,
      failureOf (answer.map fun _ => ()) = failureOf answer := by
    intro answer
    cases answer <;> rfl
  cases step with
  | createSystemPartition disk bounds =>
    refine single_made (fun _ => rfl) ?_ (printed _)
    exact Call.noConfusion
  | createRawPartition disk bounds =>
    refine single_made (fun _ => rfl) ?_ (printed _)
    exact Call.noConfusion
  | settle delay =>
    refine single_made (fun _ => rfl) ?_ rfl
    exact Call.noConfusion
  | format device force =>
    refine single_made (fun _ => rfl) ?_ rfl
    exact Call.noConfusion
  | releaseMounts device => exact releaseMounts_made device

/-- The steps follow one another up to the first that fails, which is the value. -/
theorem performAll_ended (steps : List Step) :
    Step.Ended steps ((performAll steps).history host state)
      ((performAll steps).run host state).value := by
  induction steps generalizing state with
  | nil => exact ⟨[], .nil, rfl⟩
  | cons step rest ih =>
    obtain ⟨table, read, made⟩ := @perform_made σ host state step
    rw [performAll, bind_eq, history_bind, run_bind_value]
    cases done : ((perform step).run host state).value with
    | error cause =>
      rw [done] at made
      have broken : step.BrokenOff cause ((perform step).history host state) := ⟨table, read, made⟩
      simp only [bind_eq, tell_bind, history_say, run_say_value, pure_eq, history_done,
        run_done_value, List.append_nil]
      exact broken.stopped
    | ok _ =>
      rw [done] at made
      have completed : step.Completed ((perform step).history host state) := ⟨table, read, made⟩
      have later := @ih ((perform step).run host state).state
      dsimp only
      cases ended : ((performAll rest).run host ((perform step).run host state).state).value with
      | ok _ =>
        rw [ended] at later
        exact completed.then_completed later
      | error failure =>
        rw [ended] at later
        exact completed.then_stopped later

/-- A layout that is no dry run performs its steps. -/
theorem execute_ended (disk : Path) (plan : Plan) (force : Bool) (delay : Delay) :
    Step.Ended (Step.forPlan disk plan force delay)
      ((execute disk plan ⟨false, force, delay⟩).history host state)
      ((execute disk plan ⟨false, force, delay⟩).run host state).value := by
  simp only [execute, bind_eq, tell_bind, history_say, run_say_value, Bool.false_eq_true, if_false]
  exact performAll_ended _

end anyHost

end Layout

namespace Session

/-- A layout stops at its first failure, and undoes nothing. It ends well exactly when each of
its steps was completed, one after the other. Else the failure is the first step that was not,
with the cause of the request that failed: the steps before it were completed, its own requests
were made up to that one, and nothing came after. A run that gets to a layout ends as it does,
and tells of a failure by the diagnostic of its cause. The steps are those of the plan: the raw
partition starts where the system partition ends, and what is released is what is formatted. -/
theorem stopped_at_first_failure {σ : Type} (host : Host σ) (disk : Path) (plan : Plan)
    (force : Bool) (delay : Delay) (state : σ) :
    let steps := Step.forPlan disk plan force delay
    let layout := Layout.execute disk plan ⟨false, force, delay⟩
    let history := layout.history host state
    let value := (layout.run host state).value
    (value = .ok () ↔ Step.AllCompleted steps history) ∧
    (∀ failure, value = .error failure → Step.StoppedAt steps failure history) ∧
    (∀ settings flags,
      ((validate disk flags).run host state).value = .ok () →
      (surveyed host disk flags state).value.isUsable = true →
      ((partitionDisk settings disk flags).run host state).value =
        ((Layout.execute disk (planned host settings disk flags state)
          ⟨flags.dryRun, flags.force, settings.delay⟩).run host
            (surveyed host disk flags state).state).value.mapError
              fun failure => .partitioningFailed failure.cause.diagnostic) ∧
    ∃ boundary, steps =
      [.createSystemPartition disk ⟨['0'], boundary⟩] ++
      (if plan.hasRaw then [.createRawPartition disk ⟨boundary, decimal plan.total⟩] else []) ++
      [.settle delay] ++
      (if force then [.releaseMounts ⟨disk.text ++ ['1']⟩] else []) ++
      [.format ⟨disk.text ++ ['1']⟩ force] := by
  intro steps layout history value
  have ended : Step.Ended steps history value := Layout.execute_ended disk plan force delay
  refine ⟨ended.ok_iff, ?_, ?_, sizeText plan.system, ?_⟩
  · intro failure failed
    rw [failed] at ended
    exact ended
  · intro settings flags checked usable
    rw [value_partitionDisk checked, if_pos usable]
    exact mapError_partitionSized _
  · have first : decimal Step.systemPartition = ['1'] := by decide
    simp only [steps, Step.forPlan, Plan.rawBounds?, Plan.systemBounds, partitionPath, first]
    cases plan.hasRaw <;> rfl

/-- A busy partition stops a forced layout before its format, with the words of the tool. -/
theorem busy_partition_stops_layout :
    let busy := "target is busy".toList
    let host := { ScriptedHost.oneDisk "/dev/sda1 /mnt ext4\n".toList with
      failures := ⟨none, none, some busy, none⟩ }
    let disk := ScriptedHost.firstDisk
    let settings := Settings.standard []
    let flags : RunFlags := ⟨false, true, false⟩
    let plan := planned scripted settings disk flags host
    let met := (surveyed scripted disk flags host).state
    Step.StoppedAt (Step.forPlan disk plan true settings.delay)
        ⟨.releaseMounts ⟨"/dev/sda1".toList⟩, ScriptedHost.failedTool unmountProgram busy⟩
        ((Layout.execute disk plan ⟨false, true, settings.delay⟩).history scripted met) ∧
      ((partitionDisk settings disk flags).run scripted host).value =
        .error (.partitioningFailed busy) := by
  intro busy host disk settings flags plan met
  have failed : ((Layout.execute disk plan ⟨false, true, settings.delay⟩).run scripted met).value =
      .error ⟨.releaseMounts ⟨"/dev/sda1".toList⟩,
        ScriptedHost.failedTool unmountProgram busy⟩ := by
    decide +kernel
  obtain ⟨-, stopped, -, -⟩ := stopped_at_first_failure scripted disk plan true settings.delay met
  obtain ⟨-, -, told, -⟩ := stopped_at_first_failure scripted disk plan true settings.delay host
  refine ⟨stopped _ failed, ?_⟩
  rw [told settings flags (by decide +kernel) (by decide +kernel)]
  exact congrArg (Except.mapError _) failed

end Session

end DiskPrep
