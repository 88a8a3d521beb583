import DiskPrep.Machine.Host
import DiskPrep.Proofs.Report.SummaryRow
import DiskPrep.Proofs.Session.Labelling

/-!
Runs of the partitioning tool and the script that stands for them. A host that runs the tool
gives its output, or a failure with all that it printed, less the blanks at the ends; the script
keeps these blanks. As no summary is read from them, a first query finds out the same either way,
and a label is asked for in the same cases (`scripted_run_faithful`).
-/
namespace DiskPrep

open Machine

/-- The script's reply for a run of the tool: what it printed, with all of the diagnostics behind
it when the run failed. -/
def QueryReply.ofRun (exit : Shell.Exit) (output diagnostics : Text) : QueryReply :=
  if exit = .status 0 then .printed output else .failed (output ++ diagnostics)

namespace Survey

open Workflow

/-- A query of a scripted host is answered by the next reply. -/
theorem firstAnswer_scripted {fake : ScriptedHost} {reply : QueryReply} {rest : List QueryReply}
    (script : fake.replies = reply :: rest) (disk : Path) :
    (firstAnswer scripted disk fake).reply = reply.answer := by
  have query : sizeQuery.isQuery = true := rfl
  exact (ScriptedHost.answer_query disk query script).1

theorem exists_ok_of_toOption_map {ε α β : Type} {result : Except ε α} {f : α → β} {value : β}
    (found : result.toOption.map f = some value) : ∃ a, result = .ok a ∧ f a = value := by
  cases result with
  | error cause => cases found
  | ok a => exact ⟨a, rfl, Option.some.inj found⟩

/-- A machine answers a query with the reply for the run of its tool. -/
theorem firstAnswer_onMachine {machine : Machine} {disk : Path} {finished : Shell.Finished}
    (ran : runTool machine.tree partedProgram (sizeQuery.arguments disk) = .ok finished) :
    (firstAnswer onMachine disk machine).reply = replyTo partedProgram finished.exit
      (Text.ofBytewise finished.output) (Text.ofBytewise finished.diagnostics) := by
  have used : (machine.useTool partedProgram (sizeQuery.arguments disk)).reply =
      toolReply partedProgram finished := by
    simp only [useTool, ran]
  exact used

/-- A run that failed counts when all that it printed is the summary of a disk without a label. -/
theorem firstGeometry_failed (program : Text) (code : Option Int) (printed : Text) :
    (firstGeometry (.error (.commandFailed program code printed))).toOption =
      (Geometry.parseSummary printed).toOption.filter Geometry.needsLabel := by
  simp only [firstGeometry]
  cases Geometry.parseSummary printed with
  | error fault => rfl
  | ok geometry => cases needs : geometry.needsLabel <;> simp [Except.toOption, Option.filter, needs]

/-- The script's reply gives the first query what the run gives it. -/
theorem firstGeometry_ofRun (exit : Shell.Exit) (output diagnostics : Text) :
    (firstGeometry (replyTo partedProgram exit output diagnostics)).toOption =
      (firstGeometry (QueryReply.ofRun exit output diagnostics).answer).toOption := by
  by_cases success : exit = .status 0
  · subst success
    rfl
  · have failed : ∃ code, replyTo partedProgram exit output diagnostics =
        .error (.commandFailed partedProgram code (Text.trim (output ++ diagnostics))) := by
      unfold replyTo
      split
      · exact absurd rfl success
      · exact ⟨_, rfl⟩
      · exact ⟨_, rfl⟩
    obtain ⟨code, failed⟩ := failed
    rw [failed, QueryReply.ofRun, if_neg success, QueryReply.answer, ScriptedHost.failedTool,
      firstGeometry_failed, firstGeometry_failed, Geometry.parseSummary_trim]

theorem known_eq_getD (answer : Except HostError Geometry) :
    known answer = answer.toOption.getD .unknown := by
  cases answer <;> rfl

theorem value_probe? {σ : Type} (host : Host σ) (disk : Path) (state : σ) :
    ((probe? disk).run host state).value = firstGeometry (firstAnswer host disk state).reply := rfl

/-- A scripted host stands for every run of the partitioning tool. Where a host answers the first
query by the reply for a run, and the script holds what the run printed, with the blanks at its ends,
both find out the same geometry or both fail; a probe knows the same, a label is asked for by both or
by neither, and without it an inspection knows the same. -/
theorem scripted_run_faithful {σ : Type} (host : Host σ) (state : σ) (fake : ScriptedHost)
    (rest : List QueryReply) (disk : Path) (exit : Shell.Exit) (output diagnostics : Text)
    (ran : (firstAnswer host disk state).reply = replyTo partedProgram exit output diagnostics)
    (script : fake.replies = QueryReply.ofRun exit output diagnostics :: rest) :
    let label := Call.parted disk labelScript
    let asked := ((inspect? disk).history host state).map Moment.call
    let fakeAsked := ((inspect? disk).history scripted fake).map Moment.call
    ((probe? disk).run host state).value.toOption =
        ((probe? disk).run scripted fake).value.toOption ∧
      ((probe disk).run host state).value = ((probe disk).run scripted fake).value ∧
      (label ∈ asked ↔ label ∈ fakeAsked) ∧
      (label ∉ asked →
        ((inspect disk).run host state).value = ((inspect disk).run scripted fake).value) ∧
      ∀ text, Geometry.parseSummary (Text.trim text) = Geometry.parseSummary text := by
  intro label asked fakeAsked
  have same : (firstGeometry (firstAnswer host disk state).reply).toOption =
      (firstGeometry (firstAnswer scripted disk fake).reply).toOption := by
    rw [firstAnswer_scripted script, ran]
    exact firstGeometry_ofRun exit output diagnostics
  have shows : ShowsUnlabelled (firstAnswer host disk state).reply ↔
      ShowsUnlabelled (firstAnswer scripted disk fake).reply := by
    rw [showsUnlabelled_iff, same, ← showsUnlabelled_iff]
  refine ⟨?_, ?_, ?_, ?_, Geometry.parseSummary_trim⟩
  · rw [value_probe?, value_probe?, same]
  · rw [value_probe, value_probe, known_eq_getD, same, ← known_eq_getD]
  · exact label_mem_inspect?_iff.trans (shows.trans label_mem_inspect?_iff.symm)
  · intro unasked
    have labelled := fun unlabelled => unasked (label_mem_inspect?_iff.mpr unlabelled)
    rw [value_inspect_labelled labelled,
      value_inspect_labelled fun unlabelled => labelled (shows.mpr unlabelled),
      known_eq_getD, same, ← known_eq_getD]

/-- A machine on which the partitioning tool fails over a disk without a label. The summary is not
ended by a line feed, so the diagnostics go on in its line. -/
def unlabelledMachine : Machine :=
  let tools := [["tmp".toList], FileTree.toolLocation, ["bin".toList]]
  let script := "#!/bin/sh\nprintf '\\n/dev/sda:500GB:scsi:512:512:unknown:A:;'\necho Error >&2\nexit 1\n"
  { Machine.bare with
    tree := ⟨tools.map (fun place => (place, .directory directoryMode)) ++
      [(["bin".toList, "sh".toList], .file [] directoryMode),
        (FileTree.toolLocation ++ [partedProgram], .file (Text.utf8 script.toList) directoryMode)]⟩ }

theorem exists_finished_unlabelledMachine : ∃ finished,
    runTool unlabelledMachine.tree partedProgram (sizeQuery.arguments ScriptedHost.firstDisk) =
        .ok finished ∧
      (finished.exit, finished.output, finished.diagnostics) = (.status 1,
        "\n/dev/sda:500GB:scsi:512:512:unknown:A:;".toList, "Error\n".toList) := by
  refine exists_ok_of_toOption_map ?_
  decide +kernel

def unlabelledScript : ScriptedHost :=
  { ScriptedHost.empty with
    replies := [.failed "\n/dev/sda:500GB:scsi:512:512:unknown:A:;Error\n".toList] }

/-- The run and the script are taken alike. -/
theorem unlabelledMachine_faithful :
    ((probe ScriptedHost.firstDisk).run onMachine unlabelledMachine).value = ⟨500, unknownLabel⟩ ∧
      .parted ScriptedHost.firstDisk labelScript ∈
        ((inspect? ScriptedHost.firstDisk).history onMachine unlabelledMachine).map Moment.call := by
  obtain ⟨finished, ran, outcome⟩ := exists_finished_unlabelledMachine
  injection outcome with exit rest
  injection rest with output diagnostics
  have replied := firstAnswer_onMachine ran
  rw [exit, output, diagnostics] at replied
  obtain ⟨-, known, label, -⟩ := scripted_run_faithful onMachine unlabelledMachine unlabelledScript []
    ScriptedHost.firstDisk _ _ _ replied (by decide +kernel)
  have shows : ShowsUnlabelled (firstAnswer scripted ScriptedHost.firstDisk unlabelledScript).reply :=
    ⟨_, rfl, ⟨500, unknownLabel⟩, rfl, rfl⟩
  refine ⟨?_, label.mpr (label_mem_inspect?_iff.mpr shows)⟩
  rw [known]
  rfl

end Survey

end DiskPrep
