import DiskPrep.Proofs.Run.Scripted
import DiskPrep.Session.Layout
import DiskPrep.Session.Reformat

/-!
Mounts are released in two places, before a wipe and before a format. Both loops are
`releaseEach` with notices added. A release that fails is the last request and the
value (`releaseEach_failed`); if none fails, no entry that the points cover is left
(`releaseEach_clears`).
-/
namespace DiskPrep

open Workflow

/-- Mount points released one after the other, until one fails. -/
def releaseEach : List Path → Workflow (Except HostError Unit)
  | [] => done (.ok ())
  | point :: rest => ask (.unmount point) fun
    | .error cause => done (.error cause)
    | .ok () => releaseEach rest

theorem Layout.silent_releaseAll (device : Path) (points : List Path) :
    (Layout.releaseAll device points).silent = releaseEach points := by
  induction points with
  | nil => rfl
  | cons point rest ih =>
    simp only [Layout.releaseAll, bind_eq, tell_bind, request, Workflow.bind, silent, releaseEach]
    congr 1
    funext reply
    cases reply with
    | error cause => rfl
    | ok _ => exact ih

theorem Reformat.silent_releaseAll (points : List Path) :
    (Reformat.releaseAll false points).silent =
      (releaseEach points).bind fun answer =>
        done (answer.mapError fun cause => .partitionMounted cause.diagnostic) := by
  induction points with
  | nil => rfl
  | cons point rest ih =>
    simp only [Reformat.releaseAll, Bool.false_eq_true, if_false, bind_eq, request, Workflow.bind,
      silent, releaseEach]
    congr 1
    funext reply
    cases reply with
    | error cause => rfl
    | ok _ => exact ih

section anyHost

variable {σ : Type} {host : Host σ} {points : List Path} {state : σ}

theorem mem_releaseEach {m : Moment σ} (member : m ∈ (releaseEach points).history host state) :
    ∃ point ∈ points, m.call = .unmount point := by
  induction points generalizing state with
  | nil => exact absurd member List.not_mem_nil
  | cons point rest ih =>
    rw [releaseEach, history_ask] at member
    rcases List.mem_cons.mp member with rfl | member
    · exact ⟨point, List.mem_cons_self, rfl⟩
    · cases reply : (host.answer (.unmount point) state).reply with
      | error cause =>
        rw [reply] at member
        exact absurd member List.not_mem_nil
      | ok _ =>
        rw [reply] at member
        obtain ⟨other, listed, call⟩ := ih member
        exact ⟨other, List.mem_cons_of_mem point listed, call⟩

/-- Nothing is asked after a release that failed, and its cause is the value. -/
theorem releaseEach_failed {earlier later : List (Moment σ)} {met : σ} {point : Path}
    {cause : HostError}
    (split : (releaseEach points).history host state =
      earlier ++ ⟨met, .unmount point, .error cause⟩ :: later) :
    later = [] ∧ ((releaseEach points).run host state).value = .error cause := by
  induction points generalizing state earlier with
  | nil => exact absurd split.symm (by simp [releaseEach])
  | cons first rest ih =>
    rw [releaseEach, history_ask] at split
    rw [releaseEach, run_ask_value]
    cases reply : (host.answer (.unmount first) state).reply with
    | error other =>
      rw [reply] at split
      cases earlier with
      | nil =>
        simp_all
      | cons head earlier =>
        exact absurd (List.cons.inj split).2 (by simp)
    | ok _ =>
      rw [reply] at split
      cases earlier with
      | nil =>
        simp_all
      | cons head earlier =>
        exact ih (List.cons.inj split).2

/-- A loop that ends well has released each of its points. -/
theorem releaseEach_answered (success : ((releaseEach points).run host state).value = .ok ())
    {point : Path} (member : point ∈ points) :
    Answered ((releaseEach points).history host state) (.unmount point) (.ok ()) := by
  induction points generalizing state with
  | nil => exact absurd member List.not_mem_nil
  | cons first rest ih =>
    rw [releaseEach, run_ask_value] at success
    rw [releaseEach, history_ask]
    cases reply : (host.answer (.unmount first) state).reply with
    | error cause =>
      rw [reply] at success
      cases success
    | ok _ =>
      rw [reply] at success
      rcases List.mem_cons.mp member with rfl | member
      · exact ⟨state, List.mem_cons_self⟩
      · obtain ⟨met, asked⟩ := ih success member
        exact ⟨met, List.mem_cons_of_mem _ asked⟩

end anyHost

/-- Where the tool that releases works, every loop ends well. -/
theorem releaseEach_works {points : List Path} {host : ScriptedHost}
    (works : host.failures.unmount = none) :
    ((releaseEach points).run scripted host).value = .ok () := by
  induction points generalizing host with
  | nil => rfl
  | cons point rest ih =>
    have still_works : (ScriptedHost.answer (.unmount point) host).state.failures.unmount = none := by
      rw [ScriptedHost.answer_failures]
      exact works
    rw [releaseEach, run_ask_value, ScriptedHost.scripted_answer,
      (ScriptedHost.answer_unmount_works point).mpr works]
    exact ih still_works

/-- When every release succeeds, no watched entry that the points cover is left. -/
theorem releaseEach_clears {watched : MountEntry → Prop} {points : List Path}
    {host : ScriptedHost} (covered : MountEntry.Covered watched points host.mounts)
    (success : ((releaseEach points).run scripted host).value = .ok ()) :
    ∀ entry ∈ ((releaseEach points).run scripted host).state.entries, ¬ watched entry := by
  induction points generalizing host with
  | nil => exact covered.none_left
  | cons point rest ih =>
    rw [releaseEach, run_ask_value, ScriptedHost.scripted_answer] at success
    rw [releaseEach, run_ask_state, ScriptedHost.scripted_answer]
    cases reply : (ScriptedHost.answer (.unmount point) host).reply with
    | error cause =>
      rw [reply] at success
      cases success
    | ok _ =>
      rw [reply] at success
      -- The points left to release still cover the table that this release has left.
      refine ih ?_ success
      rw [ScriptedHost.answer_unmount_ok reply]
      exact covered.release

end DiskPrep
