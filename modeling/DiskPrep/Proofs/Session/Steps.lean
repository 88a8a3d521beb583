import DiskPrep.Proofs.Session.Release

/-!
What the steps of a layout ask. Each request belongs to a step (`mem_performAll`) and is
of the kind that the step stands for (`perform_asks`); what stands behind some steps is
reached only when all of them succeed (`performAll_append`).
-/
namespace DiskPrep

open Workflow

/-- The requests that may be made for a step. -/
def Step.Asks : Step → Call → Prop
  | createSystemPartition disk bounds, call => call = .parted disk (partitionScript true bounds)
  | createRawPartition disk bounds, call => call = .parted disk (partitionScript false bounds)
  | settle delay, call => call = .settle delay
  | releaseMounts _, call => call = .readMounts ∨ ∃ point, call = .unmount point
  | format device force, call => call = .formatExt4 device force

/-- The steps that come before mounts are looked at. -/
def Step.preparation (disk : Path) (plan : Plan) (delay : Delay) : List Step :=
  [createSystemPartition disk plan.systemBounds] ++
    (plan.rawBounds?.map (createRawPartition disk)).toList ++ [settle delay]

theorem Step.forPlan_eq (disk : Path) (plan : Plan) (force : Bool) (delay : Delay) :
    forPlan disk plan force delay =
      preparation disk plan delay ++
        ((if force then [releaseMounts (partitionPath disk systemPartition)] else []) ++
          [format (partitionPath disk systemPartition) force]) :=
  List.append_assoc _ _ _

theorem Step.mem_preparation {disk : Path} {plan : Plan} {delay : Delay} {step : Step} {call : Call}
    (member : step ∈ preparation disk plan delay) (asks : step.Asks call) :
    call = .settle delay ∨
      ∃ freshLabel bounds, call = .parted disk (partitionScript freshLabel bounds) := by
  rcases List.mem_append.mp member with member | last
  · rcases List.mem_append.mp member with first | raw
    · rw [List.mem_singleton.mp first] at asks
      exact Or.inr ⟨true, _, asks⟩
    · rw [Option.mem_toList, Option.map_eq_some_iff] at raw
      obtain ⟨bounds, -, rfl⟩ := raw
      exact Or.inr ⟨false, bounds, asks⟩
  · rw [List.mem_singleton.mp last] at asks
    exact Or.inl asks

/-- The requests of a layout are for its own disk and its system partition, and mounts are
looked at only by force. -/
theorem Step.call_of_mem_forPlan {disk : Path} {plan : Plan} {forced : Bool} {delay : Delay}
    {step : Step} {call : Call} (member : step ∈ forPlan disk plan forced delay)
    (asks : step.Asks call) :
    (∃ freshLabel bounds, call = .parted disk (partitionScript freshLabel bounds)) ∨
      call = .settle delay ∨
      (forced = true ∧ (call = .readMounts ∨ ∃ point, call = .unmount point)) ∨
      call = .formatExt4 (partitionPath disk systemPartition) forced := by
  rw [forPlan_eq] at member
  rcases List.mem_append.mp member with prepares | member
  · rcases mem_preparation prepares asks with waits | partitions
    · exact Or.inr (Or.inl waits)
    · exact Or.inl partitions
  · rcases List.mem_append.mp member with releases | formats
    · split at releases
      next force =>
        rw [List.mem_singleton.mp releases] at asks
        exact Or.inr (Or.inr (Or.inl ⟨force, asks⟩))
      next => exact absurd releases List.not_mem_nil
    · rw [List.mem_singleton.mp formats] at asks
      exact Or.inr (Or.inr (Or.inr asks))

namespace Layout

theorem silent_releaseMounts (device : Path) :
    (releaseMounts device).silent = ask .readMounts fun
      | .error cause => done (.error cause)
      | .ok table =>
        releaseEach (MountEntry.deepestFirst
          (MountEntry.pointsOf (MountEntry.parseTable table) device)) := by
  simp only [releaseMounts, bind_eq, request, Workflow.bind, silent]
  congr 1
  funext table
  cases table with
  | error cause => rfl
  | ok table => exact silent_releaseAll device _

/-- The steps behind some others are tried when those have all succeeded. -/
theorem performAll_append (first second : List Step) :
    performAll (first ++ second) = (performAll first).bind fun
      | .ok () => performAll second
      | .error failure => done (.error failure) := by
  induction first with
  | nil => rfl
  | cons step rest ih =>
    simp only [List.cons_append, performAll, bind_eq, bind_assoc]
    congr 1
    funext answer
    cases answer with
    | ok _ => exact ih
    | error cause => rfl

theorem silent_performAll_format (device : Path) (force : Bool) :
    (performAll [.format device force]).silent = ask (.formatExt4 device force) fun
      | .ok () => done (.ok ())
      | .error cause => done (.error ⟨.format device force, cause⟩) := by
  simp only [performAll, perform, bind_eq, request, Workflow.bind, silent]
  congr 1
  funext reply
  cases reply <;> rfl

/-- A dry run of a layout only tells. -/
theorem silent_execute_dry (disk : Path) (plan : Plan) (forced : Bool) (delay : Delay) :
    (execute disk plan ⟨true, forced, delay⟩).silent = done (.ok ()) := by
  have told : ∀ steps, (tellAll steps).silent = done (.ok ()) := by
    intro steps
    induction steps with
    | nil => rfl
    | cons step rest ih => exact ih
  exact told _

section history

variable {σ : Type} {host : Host σ} {m : Moment σ}

theorem perform_asks {step : Step} {state : σ}
    (member : m ∈ (perform step).history host state) : step.Asks m.call := by
  cases step with
  | createSystemPartition disk bounds =>
    rw [List.mem_singleton.mp member]
    rfl
  | createRawPartition disk bounds =>
    rw [List.mem_singleton.mp member]
    rfl
  | settle delay =>
    rw [List.mem_singleton.mp member]
    rfl
  | format device force =>
    rw [List.mem_singleton.mp member]
    rfl
  | releaseMounts device =>
    rw [perform, ← history_silent, silent_releaseMounts, history_ask] at member
    rcases List.mem_cons.mp member with rfl | member
    · exact Or.inl rfl
    · right
      split at member
      · exact absurd member List.not_mem_nil
      · obtain ⟨point, -, call⟩ := mem_releaseEach member
        exact ⟨point, call⟩

/-- Every request of a layout is made for one of its steps, in the state to which the
steps before it have led. -/
theorem mem_performAll {steps : List Step} {state : σ}
    (member : m ∈ (performAll steps).history host state) :
    ∃ before step after, steps = before ++ step :: after ∧
      m ∈ (perform step).history host ((performAll before).run host state).state := by
  induction steps generalizing state with
  | nil => exact absurd member List.not_mem_nil
  | cons step rest ih =>
    rw [performAll, bind_eq, history_bind] at member
    rcases List.mem_append.mp member with here | member
    · exact ⟨[], step, rest, rfl, here⟩
    · split at member
      next success =>
        obtain ⟨before, other, after, rfl, asked⟩ := ih member
        refine ⟨step :: before, other, after, rfl, ?_⟩
        rw [performAll, bind_eq, run_bind_state, success]
        exact asked
      next => exact absurd member List.not_mem_nil

theorem asks_of_mem_performAll {steps : List Step} {state : σ}
    (member : m ∈ (performAll steps).history host state) : ∃ step ∈ steps, step.Asks m.call := by
  obtain ⟨before, step, after, rfl, asked⟩ := mem_performAll member
  exact ⟨step, List.mem_append_right before List.mem_cons_self, perform_asks asked⟩

/-- A dry run of a layout asks for nothing, any other for what its steps stand for. -/
theorem asks_of_mem_execute {disk : Path} {plan : Plan} {options : Options} {state : σ}
    (member : m ∈ (execute disk plan options).history host state) :
    options.dryRun = false ∧
      ∃ step ∈ Step.forPlan disk plan options.force options.delay, step.Asks m.call := by
  obtain ⟨dryRun, forced, delay⟩ := options
  cases dryRun with
  | true =>
    rw [← history_silent, silent_execute_dry] at member
    exact absurd member List.not_mem_nil
  | false => exact ⟨rfl, asks_of_mem_performAll member⟩

end history

end Layout

end DiskPrep
