import DiskPrep.Proofs.Parted
import DiskPrep.Proofs.Report.MountTable
import DiskPrep.Proofs.Run.History

/-!
Runs on a scripted host. Its record is exactly what was asked of it (`run_record`), its
table of mounts only loses entries (`run_entries_sublist`), and the tools that are set
to fail stay so. Each is shown for one answer and follows for every run.
-/
namespace DiskPrep

/-- The request leaves a trace in the record of a scripted host. -/
def Call.isRecorded : Call → Bool
  | .isRoot | .nodeKind _ => false
  | _ => true

/-- The request takes a reply from the script, if one is left. -/
def Call.usesReply : Call → Bool
  | .parted _ script => script.isQuery
  | _ => false

theorem Call.usesReply_iff {call : Call} :
    call.usesReply = true ↔ ∃ disk script, call = .parted disk script ∧
      ∀ command ∈ script.commands, command = .print := by
  cases call with
  | parted disk script =>
    rw [usesReply, Parted.Script.isQuery_iff]
    constructor
    · exact fun prints => ⟨disk, script, rfl, prints⟩
    · rintro ⟨_, _, ⟨⟩, prints⟩
      exact prints
  | _ => simp [usesReply]

def QueryReply.answer : QueryReply → Except HostError Text
  | printed output => .ok output
  | failed output => .error (ScriptedHost.failedTool partedProgram output)

/-- The requests of a run that leave a trace, in order. -/
def Workflow.trace {σ α : Type} (host : Host σ) (w : Workflow α) (state : σ) : List Call :=
  ((w.history host state).map Moment.call).filter Call.isRecorded

theorem Workflow.exists_mem_of_mem_trace {σ α : Type} {host : Host σ} {w : Workflow α} {state : σ}
    {call : Call} (member : call ∈ w.trace host state) :
    ∃ m ∈ w.history host state, m.call = call :=
  List.mem_map.mp (List.mem_filter.mp member).1

@[simp] theorem Workflow.trace_bind {σ α β : Type} (host : Host σ) (w : Workflow α)
    (f : α → Workflow β) (state : σ) :
    (w.bind f).trace host state =
      w.trace host state ++
        (f (w.run host state).value).trace host (w.run host state).state := by
  simp [trace]

theorem Workflow.trace_silent {σ α : Type} (host : Host σ) (w : Workflow α) (state : σ) :
    w.silent.trace host state = w.trace host state := by
  rw [trace, history_silent, trace]

@[simp] theorem Workflow.trace_say {σ α : Type} (host : Host σ) (notice : Notice)
    (next : Workflow α) (state : σ) :
    (say notice next).trace host state = next.trace host state := rfl

section trace

variable {σ α : Type} {host : Host σ} {call : Call} {next : call.Reply → Workflow α} {state : σ}

theorem Workflow.trace_ask :
    (ask call next).trace host state =
      [call].filter Call.isRecorded ++
        (next (host.answer call state).reply).trace host (host.answer call state).state :=
  List.filter_append [call] _

theorem Workflow.trace_ask_recorded (recorded : call.isRecorded = true) :
    (ask call next).trace host state =
      call :: (next (host.answer call state).reply).trace host (host.answer call state).state := by
  rw [trace_ask, List.filter_cons_of_pos recorded]
  rfl

theorem Workflow.trace_ask_unrecorded (unrecorded : call.isRecorded = false) :
    (ask call next).trace host state =
      (next (host.answer call state).reply).trace host (host.answer call state).state := by
  rw [trace_ask, List.filter_cons_of_neg (Bool.eq_false_iff.mp unrecorded)]
  rfl

end trace

@[simp] theorem Workflow.trace_done {σ α : Type} (host : Host σ) (value : α) (state : σ) :
    (done value).trace host state = [] := rfl

namespace ScriptedHost

open Workflow MountEntry

def entries (host : ScriptedHost) : List MountEntry := parseTable host.mounts

@[simp] theorem scripted_answer (call : Call) (host : ScriptedHost) :
    scripted.answer call host = answer call host := rfl

/-- An answer adds to the record, and may use up a reply or take entries out of the
table of mounts. All else stays as the script has it. -/
theorem answer_frame (call : Call) (host : ScriptedHost) :
    (answer call host).state =
      { host with
        record := host.record ++ [call].filter Call.isRecorded
        replies := (answer call host).state.replies
        mounts := (answer call host).state.mounts } := by
  obtain ⟨partitions, mounts, replies, failures, blockDevices, otherNodes, root, record⟩ := host
  cases call with
  | parted disk script =>
    simp only [answer, answerParted, recording]
    split
    · cases replies with
      | nil => rfl
      | cons reply rest => cases reply <;> rfl
    · rfl
  | unmount target =>
    simp only [answer, answerUnmount, recording]
    split <;> rfl
  | isRoot => simp [answer, Call.isRecorded]
  | nodeKind path => simp [answer, Call.isRecorded]
  | _ => rfl

theorem answer_record (call : Call) (host : ScriptedHost) :
    (answer call host).state.record = host.record ++ [call].filter Call.isRecorded := by
  rw [answer_frame]

/-- The record grows by exactly the requests of the run that leave a trace. -/
theorem run_record {α : Type} (w : Workflow α) (host : ScriptedHost) :
    (w.run scripted host).state.record = host.record ++ w.trace scripted host := by
  induction w generalizing host with
  | done value => exact (List.append_nil _).symm
  | say notice next ih => exact ih host
  | ask call next ih =>
    rw [run_ask_state, ih, scripted_answer, answer_record, List.append_assoc, trace_ask,
      scripted_answer]

/-- The second host has the script of the first, but for the replies that are used up and the
mounts that are gone. -/
def Continues (before after : ScriptedHost) : Prop :=
  after = { before with
    record := after.record, replies := after.replies, mounts := after.mounts }

theorem Continues.trans {first second third : ScriptedHost} (left : Continues first second)
    (right : Continues second third) : Continues first third := by
  rw [Continues] at left right ⊢
  rw [right, left]

theorem answer_continues (call : Call) (host : ScriptedHost) :
    Continues host (answer call host).state := by
  have framed := answer_frame call host
  rwa [← answer_record] at framed

theorem run_continues {α : Type} (w : Workflow α) (host : ScriptedHost) :
    Continues host (w.run scripted host).state :=
  run_relates (R := Continues) (fun _ => rfl) Continues.trans answer_continues w host

theorem answer_failures (call : Call) (host : ScriptedHost) :
    (answer call host).state.failures = host.failures := by
  rw [answer_frame]

/-- The tools that are set to fail stay so. -/
theorem run_failures {α : Type} (w : Workflow α) (host : ScriptedHost) :
    (w.run scripted host).state.failures = host.failures := by
  rw [run_continues w host]

/-- Every request meets the script of the start, but for the replies that are used up and
the mounts that are gone. -/
theorem history_frame {α : Type} {w : Workflow α} {host : ScriptedHost} {m : Moment ScriptedHost}
    (member : m ∈ w.history scripted host) :
    m.state =
      { host with
        record := m.state.record, replies := m.state.replies, mounts := m.state.mounts } :=
  history_relates (R := Continues) (fun _ => rfl) Continues.trans answer_continues w host member

/-- Only a release changes the table of mounts. -/
theorem answer_mounts (call : Call) (host : ScriptedHost) (other : ∀ point, call ≠ .unmount point) :
    (answer call host).state.mounts = host.mounts := by
  cases call with
  | parted disk script =>
    simp only [answer, answerParted, recording]
    split
    · split <;> rfl
    · rfl
  | unmount target => exact absurd rfl (other target)
  | _ => rfl

theorem answer_replies (call : Call) (host : ScriptedHost) :
    (answer call host).state.replies = host.replies.drop ([call].countP Call.usesReply) := by
  cases call with
  | parted disk script =>
    simp only [answer, answerParted, recording]
    cases query : script.isQuery with
    | true =>
      have used : [Call.parted disk script].countP Call.usesReply = 1 :=
        List.countP_cons_of_pos query
      rw [if_pos rfl, used]
      cases host.replies with
      | nil => rfl
      | cons reply rest => cases reply <;> rfl
    | false =>
      have unused : [Call.parted disk script].countP Call.usesReply = 0 :=
        List.countP_cons_of_neg (Bool.eq_false_iff.mp query)
      rw [if_neg Bool.false_ne_true, unused]
      rfl
  | unmount target =>
    simp only [answer, answerUnmount, recording]
    split <;> rfl
  | _ => rfl

/-- A query is answered by the next reply, which is then used up. -/
theorem answer_query (disk : Path) {script : Parted.Script} (query : script.isQuery = true)
    {host : ScriptedHost} {reply : QueryReply} {rest : List QueryReply}
    (left : host.replies = reply :: rest) :
    (answer (.parted disk script) host).reply = reply.answer ∧
      (answer (.parted disk script) host).state.replies = rest := by
  cases reply <;> simp [answer, answerParted, recording, query, left, QueryReply.answer]

theorem answer_query_unserved (disk : Path) {script : Parted.Script}
    (query : script.isQuery = true) {host : ScriptedHost} (none_left : host.replies = []) :
    (answer (.parted disk script) host).reply = .error (.commandFailed partedProgram (some 1)
        "FAKE HAL: no scripted parted reply".toList) ∧
      (answer (.parted disk script) host).state.replies = [] := by
  simp [answer, answerParted, recording, query, none_left, failedTool]

theorem answer_unused {call : Call} {host : ScriptedHost} (unused : call.usesReply ≠ true) :
    (answer call host).state.replies = host.replies := by
  rw [answer_replies, List.countP_cons_of_neg unused]
  rfl

/-- A run that releases nothing adds to the record and uses up replies of the script. All else
stays as it was. -/
theorem run_unreleased {α : Type} {w : Workflow α} {host : ScriptedHost}
    (other : ∀ m ∈ w.history scripted host, ∀ point, m.call ≠ .unmount point) :
    (w.run scripted host).state =
      { host with
        record := host.record ++ w.trace scripted host
        replies := host.replies.drop ((w.trace scripted host).countP Call.usesReply) } := by
  induction w generalizing host with
  | done value => simp
  | say notice next ih => exact ih other
  | ask call next ih =>
    rw [history_ask] at other
    have counted : ([call].filter Call.isRecorded).countP Call.usesReply =
        [call].countP Call.usesReply := by
      cases call <;> rfl
    rw [run_ask_state, ih _ fun m member => other m (List.mem_cons_of_mem _ member), trace_ask,
      scripted_answer, answer_frame, answer_mounts call host (other _ List.mem_cons_self),
      answer_replies, List.append_assoc, List.drop_drop, List.countP_append, counted]

theorem answer_unmount_reply (target : Path) (host : ScriptedHost) :
    (answer (.unmount target) host).reply = toolAnswer unmountProgram host.failures.unmount := by
  simp only [answer, answerUnmount, recording]
  cases host.failures.unmount <;> rfl

theorem answer_unmount_works (target : Path) {host : ScriptedHost} :
    (answer (.unmount target) host).reply = .ok () ↔ host.failures.unmount = none := by
  rw [answer_unmount_reply]
  cases host.failures.unmount with
  | none => exact ⟨fun _ => rfl, fun _ => rfl⟩
  | some output => exact ⟨nofun, nofun⟩

/-- A release that succeeds takes the entries of its target out of the table. -/
theorem answer_unmount_ok {point : Path} {host : ScriptedHost}
    (released : (answer (.unmount point) host).reply = .ok ()) :
    (answer (.unmount point) host).state.mounts = tableWithout point host.mounts := by
  simp only [answer, answerUnmount] at released ⊢
  split at released
  · cases released
  · rfl

/-- A release that fails leaves the table as it was. -/
theorem answer_unmount_error {target : Path} {host : ScriptedHost} {cause : HostError}
    (failed : (answer (.unmount target) host).reply = .error cause) :
    (answer (.unmount target) host).state.mounts = host.mounts := by
  simp only [answer, answerUnmount] at failed ⊢
  split at failed
  · rfl
  · cases failed

/-- A release uses up no reply of the script. -/
theorem answer_unmount_frame (target : Path) (host : ScriptedHost) :
    ∃ record mounts, (answer (.unmount target) host).state =
      { host with record := record, mounts := mounts } := by
  have framed := answer_frame (.unmount target) host
  have unused : (Call.unmount target).usesReply ≠ true := Bool.false_ne_true
  rw [answer_unused unused] at framed
  exact ⟨_, _, framed⟩

def firstDisk : Path := ⟨"/dev/sda".toList⟩

/-- A host whose only device is the first disk, of a hundred gigabytes, with a table of
mounts. -/
def oneDisk (mounts : Text) : ScriptedHost :=
  { empty with
    mounts
    replies := [.printed "BYT;\n/dev/sda:100GB:scsi:512:512:msdos:disk;\n".toList]
    blockDevices := [firstDisk] }

/-- Two hosts that the partitioning tool answers alike. -/
def Alike (first second : ScriptedHost) : Prop :=
  first.replies = second.replies ∧ first.failures = second.failures

/-- Only the partitioning tool uses up replies of the script. -/
theorem answer_alike (call : Call) (host : ScriptedHost)
    (other : ∀ disk script, call ≠ .parted disk script) : Alike (answer call host).state host := by
  cases call with
  | parted disk script => exact absurd rfl (other disk script)
  | unmount target =>
    simp only [Alike, answer, answerUnmount, recording]
    split <;> exact ⟨rfl, rfl⟩
  | _ => exact ⟨rfl, rfl⟩

/-- A run that never asks the partitioning tool leaves its script as it was. -/
theorem run_alike {α : Type} {w : Workflow α} {host : ScriptedHost}
    (other : ∀ m ∈ w.history scripted host, ∀ disk script, m.call ≠ .parted disk script) :
    Alike (w.run scripted host).state host := by
  induction w generalizing host with
  | done value => exact ⟨rfl, rfl⟩
  | say notice next ih => exact ih other
  | ask call next ih =>
    rw [history_ask] at other
    obtain ⟨replies, failures⟩ := ih _ fun m member => other m (List.mem_cons_of_mem _ member)
    obtain ⟨kept, same⟩ := answer_alike call host (other _ List.mem_cons_self)
    exact ⟨replies.trans kept, failures.trans same⟩

/-- Hosts with the same script give the same answer, and have the same script after it. -/
theorem answer_parted_alike (disk : Path) (script : Parted.Script) {first second : ScriptedHost}
    (alike : Alike first second) :
    (answer (.parted disk script) first).reply = (answer (.parted disk script) second).reply ∧
      Alike (answer (.parted disk script) first).state
        (answer (.parted disk script) second).state := by
  obtain ⟨replies, failures⟩ := alike
  simp only [Alike, answer, answerParted, recording, replies, failures]
  split
  · split <;> exact ⟨rfl, rfl, rfl⟩
  · exact ⟨rfl, rfl, rfl⟩

/-- A state in which all of the host's script is still to come: only the record and the mounts
may differ. -/
def Unasked (host state : ScriptedHost) : Prop :=
  state = { host with record := state.record, mounts := state.mounts }

theorem Unasked.refl (host : ScriptedHost) : Unasked host host := rfl

theorem Unasked.trans {first second third : ScriptedHost} (left : Unasked first second)
    (right : Unasked second third) : Unasked first third := by
  rw [Unasked] at left right ⊢
  rw [right, left]

theorem Unasked.alike {host state : ScriptedHost} (unasked : Unasked host state) :
    Alike state host := by
  rw [unasked]
  exact ⟨rfl, rfl⟩

/-- All but the table of mounts is answered as at the start. -/
theorem Unasked.reply {host state : ScriptedHost} (unasked : Unasked host state) {call : Call}
    (other : call ≠ .readMounts) : (answer call state).reply = (answer call host).reply := by
  cases call with
  | readMounts => exact absurd rfl other
  | parted disk script => exact (answer_parted_alike disk script unasked.alike).1
  | unmount target => rw [answer_unmount_reply, answer_unmount_reply, unasked.alike.2]
  | settle delay => rfl
  | _ =>
    rw [unasked]
    rfl

/-- A run that never asks the partitioning tool leaves its script to come. -/
theorem run_unasked {α : Type} {w : Workflow α} {host : ScriptedHost}
    (other : ∀ m ∈ w.history scripted host, ∀ disk script, m.call ≠ .parted disk script) :
    Unasked host (w.run scripted host).state := by
  have continues := run_continues w host
  rw [Continues, (run_alike other).1] at continues
  exact continues

end ScriptedHost

end DiskPrep
