import DiskPrep.Proofs.Session.Labelling
import DiskPrep.Proofs.Session.WrittenDisks

/-!
Commands that only look. A listing of disks surveys each disk that it finds, and a survey writes
at most one label, right behind the query that shows the disk to have none. What is said of the
histories of two surveys holds of both in a row (`LabelsOnly.append`), so it holds of a listing of
any length (`labelsOnly_diskLines`). The other commands read the report and nothing else.
-/
namespace DiskPrep

open Workflow

def queryArguments (disk : Path) : List Text :=
  ["-m".toList, disk.text, "unit".toList, "GB".toList, "print".toList]

def labelArguments (disk : Path) : List Text :=
  ["-s".toList, disk.text, "mklabel".toList, "msdos".toList]

/-- The request reads the report, or asks one of the disks for its size or gives it a label. -/
def Call.Inquires (disks : List Path) : Call → Prop
  | readPartitions => True
  | parted disk script =>
    disk ∈ disks ∧
      (script.arguments disk = queryArguments disk ∨ script.arguments disk = labelArguments disk)
  | _ => False

theorem Call.inquires_sizeQuery (disk : Path) :
    (parted disk Survey.sizeQuery).Inquires [disk] :=
  ⟨List.mem_cons_self, Or.inl rfl⟩

theorem Call.inquires_labelScript (disk : Path) :
    (parted disk Survey.labelScript).Inquires [disk] :=
  ⟨List.mem_cons_self, Or.inr rfl⟩

theorem Call.Inquires.mono {disks more : List Path} {call : Call} (inquires : call.Inquires disks)
    (within : disks ⊆ more) : call.Inquires more := by
  cases call with
  | readPartitions => trivial
  | parted disk script => exact ⟨within inquires.1, inquires.2⟩
  | _ => exact inquires

theorem Call.Inquires.recorded {disks : List Path} {call : Call} (inquires : call.Inquires disks) :
    call.isRecorded = true := by
  cases call <;> first | rfl | exact inquires.elim

section labels

variable {σ : Type}

/-- Whatever is written is a label, right behind a query for the size of the same disk whose answer
shows that the disk has none. -/
def LabelsShown (history : List (Moment σ)) : Prop :=
  ∀ before m after, history = before ++ m :: after → ∀ disk, m.call.written? = some disk →
    m.call = .parted disk Survey.labelScript ∧
      ∃ earlier state reply, before = earlier ++ [⟨state, .parted disk Survey.sizeQuery, reply⟩] ∧
        Survey.ShowsUnlabelled reply

theorem labelsShown_of_unwritten {history : List (Moment σ)}
    (unwritten : ∀ m ∈ history, m.call.written? = none) : LabelsShown history := by
  rintro before m after rfl disk written
  rw [unwritten m (List.mem_append_right before List.mem_cons_self)] at written
  cases written

theorem LabelsShown.append {first second : List (Moment σ)} (left : LabelsShown first)
    (right : LabelsShown second) : LabelsShown (first ++ second) := by
  intro before m after split disk written
  rcases List.append_eq_append_iff.mp split with ⟨between, rfl, rest⟩ | ⟨between, rfl, rest⟩
  · obtain ⟨label, earlier, state, reply, rfl, shows⟩ := right between m after rest disk written
    exact ⟨label, first ++ earlier, state, reply, (List.append_assoc _ _ _).symm, shows⟩
  · cases between with
    | nil =>
      -- The second history would begin with a label, and nothing stands before it there.
      obtain ⟨-, earlier, state, reply, nothing, -⟩ := right [] m after rest.symm disk written
      exact absurd nothing.symm (List.concat_ne_nil _ earlier)
    | cons head tail =>
      obtain ⟨rfl, -⟩ := List.cons.inj (rest.trans List.cons_append)
      exact left before m tail rfl disk written

/-- The history inquires after disks, gives labels to those that show to have none, and writes to
none more often than it is listed. -/
structure LabelsOnly (disks : List Path) (history : List (Moment σ)) : Prop where
  inquires : ∀ m ∈ history, m.call.Inquires disks
  shown : LabelsShown history
  counted : ∀ disk, history.countP (fun m => m.call.written? = some disk) ≤ disks.count disk

theorem LabelsOnly.append {disks more : List Path} {first second : List (Moment σ)}
    (left : LabelsOnly disks first) (right : LabelsOnly more second) :
    LabelsOnly (disks ++ more) (first ++ second) where
  inquires m member := by
    rcases List.mem_append.mp member with early | late
    · exact (left.inquires m early).mono (List.subset_append_left disks more)
    · exact (right.inquires m late).mono (List.subset_append_right disks more)
  shown := left.shown.append right.shown
  counted disk := by
    rw [List.countP_append, List.count_append]
    exact Nat.add_le_add (left.counted disk) (right.counted disk)

theorem countP_written_eq_zero {history : List (Moment σ)}
    (unwritten : ∀ m ∈ history, m.call.written? = none) (disk : Path) :
    history.countP (fun m => m.call.written? = some disk) = 0 := by
  rw [List.countP_eq_zero]
  intro m member
  simp [unwritten m member]

theorem labelsOnly_of_unwritten {disks : List Path} {history : List (Moment σ)}
    (inquires : ∀ m ∈ history, m.call.Inquires disks)
    (unwritten : ∀ m ∈ history, m.call.written? = none) : LabelsOnly disks history where
  inquires := inquires
  shown := labelsShown_of_unwritten unwritten
  counted disk := by
    rw [countP_written_eq_zero unwritten]
    exact Nat.zero_le _

/-- A query, the label that its answer calls for, and no more labels after it. -/
theorem labelsOnly_labelled {disk : Path} {met after : σ} {reply written : Except HostError Text}
    {rest : List (Moment σ)} (shows : Survey.ShowsUnlabelled reply)
    (inquires : ∀ m ∈ rest, m.call.Inquires [disk]) (unwritten : ∀ m ∈ rest, m.call.written? = none) :
    LabelsOnly [disk] (⟨met, .parted disk Survey.sizeQuery, reply⟩ ::
      ⟨after, .parted disk Survey.labelScript, written⟩ :: rest) where
  inquires m member := by
    rcases List.mem_cons.mp member with rfl | member
    · exact Call.inquires_sizeQuery disk
    · rcases List.mem_cons.mp member with rfl | member
      · exact Call.inquires_labelScript disk
      · exact inquires m member
  shown := by
    intro before m later split other call
    match before with
    | [] =>
      obtain ⟨rfl, -⟩ := List.cons.inj split
      cases call
    | [first] =>
      obtain ⟨rfl, behind⟩ := List.cons.inj split
      obtain ⟨rfl, -⟩ := List.cons.inj behind
      cases call
      exact ⟨rfl, [], met, reply, rfl, shows⟩
    | first :: second :: between =>
      obtain ⟨-, behind⟩ := List.cons.inj split
      obtain ⟨-, rest_eq⟩ := List.cons.inj behind
      have member : m ∈ rest := by
        rw [rest_eq]
        exact List.mem_append_right between List.mem_cons_self
      rw [unwritten m member] at call
      cases call
  counted other := by
    have none_later := countP_written_eq_zero unwritten other
    have query : Call.written? (.parted disk Survey.sizeQuery) = none := rfl
    have label : Call.written? (.parted disk Survey.labelScript) = some disk := rfl
    simp [List.countP_cons, none_later, query, label, List.count_singleton]

end labels

namespace Survey

variable {σ : Type} {host : Host σ} {disk : Path} {dryRun : Bool} {state : σ}

theorem labelsOnly_query {reply : Except HostError Text} :
    LabelsOnly [disk] [(⟨state, .parted disk sizeQuery, reply⟩ : Moment σ)] :=
  labelsOnly_of_unwritten (List.forall_mem_singleton.mpr (Call.inquires_sizeQuery disk))
    (List.forall_mem_singleton.mpr rfl)

/-- A survey writes at most one label. -/
theorem labelsOnly_survey : LabelsOnly [disk] ((survey disk dryRun).history host state) := by
  unfold survey
  split
  next dry =>
    rw [← history_silent, silent_probe, history_ask, history_done]
    exact labelsOnly_query
  next wet =>
    rw [history_inspect]
    by_cases unlabelled : ShowsUnlabelled (firstAnswer host disk state).reply
    · cases written : (labelAnswer host disk state).reply with
      | error cause =>
        rw [(inspect?_label_failed unlabelled written).1]
        exact labelsOnly_labelled unlabelled (by simp) (by simp)
      | ok output =>
        have again := @labelsOnly_query σ disk (labelAnswer host disk state).state
          (secondAnswer host disk state).reply
        rw [(inspect?_label_written unlabelled written).1]
        exact labelsOnly_labelled unlabelled again.inquires (List.forall_mem_singleton.mpr rfl)
    · rw [(inspect?_labelled unlabelled).1]
      exact labelsOnly_query

end Survey

namespace Session

section anyHost

variable {σ : Type} {host : Host σ} {state : σ} {settings : Settings} {flags : RunFlags}

theorem labelsOnly_reads {disks : List Path} {history : List (Moment σ)}
    (reads : ∀ m ∈ history, m.call = .readPartitions) : LabelsOnly disks history := by
  refine labelsOnly_of_unwritten ?_ ?_
  · intro m member
    rw [reads m member]
    trivial
  · intro m member
    rw [reads m member]
    rfl

/-- The labels of a listing are those of its surveys. -/
theorem labelsOnly_diskLines {dryRun : Bool} (devices : List BlockDevice) :
    LabelsOnly (devices.map BlockDevice.path)
      ((diskLines settings dryRun devices).history host state) := by
  induction devices generalizing state with
  | nil => exact labelsOnly_of_unwritten (by simp [diskLines]) (by simp [diskLines])
  | cons device rest ih =>
    rw [diskLines, bind_eq, history_bind, bind_eq, history_bind, pure_eq, history_done,
      List.append_nil]
    exact Survey.labelsOnly_survey.append ih

theorem labelsOnly_listDisks :
    LabelsOnly ((Discovery.disksFound host state
        (if flags.force then .all else .unpartitioned)).map BlockDevice.path)
      ((listDisks settings flags).history host state) := by
  rw [listDisks, bind_eq, history_bind]
  have looking : LabelsOnly [] ((Discovery.disks (if flags.force then .all else .unpartitioned)).history
      host state) := labelsOnly_reads fun _ member => Discovery.mem_disks member
  exact looking.append (labelsOnly_diskLines _)

/-- Without a reformat the requests of a run are those of its command. -/
theorem history_dispatch_plain {request : CommandLine.Request} (plain : request.reformat = false) :
    (dispatch settings request).history host state =
      (perform settings ⟨request.dryRun, request.force, false⟩ request.selected).history host state := by
  rw [dispatch, reformatFirst_plain plain, bind_eq, done_bind]

variable {request : CommandLine.Request} (plain : request.reformat = false)
  (querying : ∀ disk, request.selected ≠ .partition disk)

include plain querying

/-- Only a listing of disks asks for more than the report. -/
theorem mem_query {m : Moment σ} (member : m ∈ (dispatch settings request).history host state)
    (other : request.selected ≠ .list) : m.call = .readPartitions := by
  rw [history_dispatch_plain plain] at member
  cases selected : request.selected with
  | list => exact absurd selected other
  | partition disk => exact absurd selected (querying disk)
  | partitions =>
    rw [selected, perform, bind_eq, history_bind, pure_eq, history_done, List.append_nil] at member
    exact mem_listPartitions member
  | errno code =>
    rw [selected] at member
    exact absurd member List.not_mem_nil
  | help =>
    rw [selected] at member
    exact absurd member List.not_mem_nil

theorem labelsOnly_dispatch :
    LabelsOnly ((Discovery.disksFound host state
        (if request.force then .all else .unpartitioned)).map BlockDevice.path)
      ((dispatch settings request).history host state) := by
  by_cases listing : request.selected = .list
  · rw [history_dispatch_plain plain, listing, perform, bind_eq, history_bind, pure_eq,
      history_done, List.append_nil]
    exact @labelsOnly_listDisks _ host state settings ⟨request.dryRun, request.force, false⟩
  · exact labelsOnly_reads fun m member => mem_query plain querying member listing

end anyHost

/-- Query commands modify nothing but missing labels. -/
theorem query_commands_label_only (settings : Settings) (request : CommandLine.Request)
    (host : ScriptedHost) (plain : request.reformat = false)
    (querying : ∀ disk, request.selected ≠ .partition disk) :
    let history := (dispatch settings request).history scripted host
    let found := Discovery.disksFound scripted host (if request.force then .all else .unpartitioned)
    ((dispatch settings request).run scripted host).state.record =
        host.record ++ history.map Moment.call ∧
      LabelsOnly (found.map BlockDevice.path) history ∧
      (request.selected ≠ .list → ∀ m ∈ history, m.call = .readPartitions) := by
  intro history found
  have labels : LabelsOnly (found.map BlockDevice.path) history :=
    labelsOnly_dispatch plain querying
  refine ⟨?_, labels, fun other m member => mem_query plain querying member other⟩
  rw [ScriptedHost.run_record, Workflow.trace, List.filter_eq_self.mpr]
  intro call member
  obtain ⟨m, asked, rfl⟩ := List.mem_map.mp member
  exact (labels.inquires m asked).recorded

/-- Of two disks that are listed, the one without a label is given one. -/
theorem missing_label_written :
    let report := "major minor  #blocks  name\n\n8 0 100 sda\n8 16 100 sdb\n".toList
    let summary (label : String) : Text :=
      ("BYT;\n/dev/sda:100GB:scsi:512:512:" ++ label ++ ":disk;\n").toList
    let host := { ScriptedHost.empty with
      partitions := some report
      replies := [.failed (summary "unknown"), .printed (summary "msdos"), .printed (summary "gpt")] }
    let request := { CommandLine.Request.empty with list := true }
    let history := (dispatch (Settings.standard []) request).history scripted host
    LabelsOnly [⟨"/dev/sda".toList⟩, ⟨"/dev/sdb".toList⟩] history ∧
      Call.parted ⟨"/dev/sda".toList⟩ Survey.labelScript ∈ history.map Moment.call := by
  intro report summary host request history
  have found : (Discovery.disksFound scripted host .unpartitioned).map BlockDevice.path =
      [⟨"/dev/sda".toList⟩, ⟨"/dev/sdb".toList⟩] := by
    decide +kernel
  obtain ⟨-, labels, -⟩ := query_commands_label_only (Settings.standard []) request host rfl
    (by rintro disk ⟨⟩)
  refine ⟨found ▸ labels, ?_⟩
  decide +kernel

end Session

end DiskPrep
