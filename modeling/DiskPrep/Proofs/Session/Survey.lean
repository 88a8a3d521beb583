import DiskPrep.Proofs.Run.Scripted
import DiskPrep.Session.Survey

/-!
What a survey asks and where its size comes from. It asks for the size, and at most
writes a label and asks again (`mem_survey`); a size above zero was printed by the tool
in answer to one of these queries (`survey_printed`), never made up.
-/
namespace DiskPrep.Survey

open Workflow

/-- What is known of a disk after the answer to its last query. -/
def known : Except HostError Geometry → Geometry
  | .ok geometry => geometry
  | .error _ => .unknown

/-- What the tool printed, if it ran, whether it failed or not. -/
def printed? : Except HostError Text → Option Text
  | .ok output => some output
  | .error (.commandFailed _ _ output) => some output
  | .error _ => none

/-- Nothing is known of a size of zero; any other size was in the answer. -/
theorem usable_known {answer : Except HostError Geometry}
    (usable : (known answer).isUsable = true) :
    ∃ geometry, answer = .ok geometry ∧ 0 < geometry.total := by
  cases answer with
  | error cause => cases usable
  | ok geometry => exact ⟨geometry, rfl, of_decide_eq_true usable⟩

theorem silent_orUnknown (disk : Path) (answer : Except HostError Geometry) :
    (orUnknown disk answer).silent = done (known answer) := by
  cases answer <;> rfl

theorem silent_probe (disk : Path) :
    (probe disk).silent = ask (.parted disk sizeQuery) fun reply =>
      done (known (firstGeometry reply)) := by
  simp only [probe, probe?, bind_eq, request, Workflow.bind, pure_eq, silent, silent_orUnknown]

theorem silent_inspect (disk : Path) :
    (inspect disk).silent = ask (.parted disk sizeQuery) fun first =>
      match firstGeometry first with
      | .error _ => done .unknown
      | .ok geometry =>
        if geometry.needsLabel then
          ask (.parted disk labelScript) fun
            | .error _ => done .unknown
            | .ok _ => ask (.parted disk sizeQuery) fun second =>
              done (known (laterGeometry second))
        else done geometry := by
  simp only [inspect, inspect?, probe?, bind_eq, request, Workflow.bind, pure_eq, silent]
  congr 1
  funext first
  cases firstGeometry first with
  | error cause => rfl
  | ok geometry =>
    by_cases unlabelled : geometry.needsLabel = true
    · simp only [unlabelled, if_true, tell_bind, Workflow.bind, silent]
      congr 1
      funext labelled
      cases labelled with
      | error cause => rfl
      | ok output =>
        simp only [Workflow.bind, silent, silent_orUnknown]
    · simp only [unlabelled, Bool.false_eq_true, if_false]
      rfl

/-- The geometry of a first answer is the one in what the tool printed. -/
theorem printed_firstGeometry {reply : Except HostError Text} {geometry : Geometry}
    (found : firstGeometry reply = .ok geometry) :
    ∃ output, printed? reply = some output ∧ Geometry.parseSummary output = .ok geometry := by
  unfold firstGeometry geometryIn at found
  split at found
  next output =>
    refine ⟨output, rfl, ?_⟩
    split at found
    · rwa [← Except.ok.inj found]
    · cases found
  next program code output =>
    refine ⟨output, rfl, ?_⟩
    split at found
    · split at found
      · rwa [← Except.ok.inj found]
      · cases found
    · cases found
  next => cases found

theorem printed_laterGeometry {reply : Except HostError Text} {geometry : Geometry}
    (found : laterGeometry reply = .ok geometry) :
    ∃ output, printed? reply = some output ∧ Geometry.parseSummary output = .ok geometry := by
  cases reply with
  | error cause => cases found
  | ok output => exact printed_firstGeometry found

section history

variable {σ : Type} {host : Host σ} {disk : Path} {dryRun : Bool} {state : σ}

/-- A survey asks for the size; it writes a label only when it is no dry run. -/
theorem mem_survey {m : Moment σ} (member : m ∈ (survey disk dryRun).history host state) :
    m.call = .parted disk sizeQuery ∨ (dryRun = false ∧ m.call = .parted disk labelScript) := by
  unfold survey at member
  split at member
  next dry =>
    rw [← history_silent, silent_probe, history_ask, history_done] at member
    rw [List.mem_singleton.mp member]
    exact Or.inl rfl
  next wet =>
    rw [← history_silent, silent_inspect, history_ask] at member
    rcases List.mem_cons.mp member with rfl | member
    · exact Or.inl rfl
    · split at member
      · exact absurd member List.not_mem_nil
      · split at member
        · rw [history_ask] at member
          rcases List.mem_cons.mp member with rfl | member
          · exact Or.inr ⟨Bool.eq_false_iff.mpr wet, rfl⟩
          · split at member
            · exact absurd member List.not_mem_nil
            · rw [List.mem_singleton.mp member]
              exact Or.inl rfl
        · exact absurd member List.not_mem_nil

end history

end DiskPrep.Survey
