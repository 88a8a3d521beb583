import DiskPrep.Proofs.Run.Scripted

/-!
A scripted host whose script is still written while it is asked: replies are put at the end of the
script and requests are made, in any order. What queries were given and what is left are together
what was ever put in, in order (`given_append_replies`), so the script is a queue of replies; and
the record is what was asked, in order (`record_after`). Both are shown for one action and follow
for every run of actions.
-/
namespace DiskPrep.ScriptedHost

inductive Action where
  /-- A reply is put at the end of the script. -/
  | queue (reply : QueryReply)
  /-- A request is made. -/
  | ask (call : Call)
  deriving DecidableEq, Repr

/-- The replies that actions put into the script, in order. -/
def queuedBy (actions : List Action) : List QueryReply :=
  actions.filterMap fun
    | .queue reply => some reply
    | .ask _ => none

def askedBy (actions : List Action) : List Call :=
  actions.filterMap fun
    | .queue _ => none
    | .ask call => some call

def queriesIn (actions : List Action) : Nat := (askedBy actions).countP Call.usesReply

def after (host : ScriptedHost) : List Action → ScriptedHost
  | [] => host
  | .queue reply :: rest => (host.queueing reply).after rest
  | .ask call :: rest => (answer call host).state.after rest

/-- The replies that the queries among actions are given, in order. -/
def given (host : ScriptedHost) : List Action → List QueryReply
  | [] => []
  | .queue reply :: rest => (host.queueing reply).given rest
  | .ask call :: rest =>
    host.replies.take ([call].countP Call.usesReply) ++ (answer call host).state.given rest

/-- Every query among actions finds a reply in the script. -/
def AllServed (host : ScriptedHost) (actions : List Action) : Prop :=
  ∀ earlier call later, actions = earlier ++ .ask call :: later → call.usesReply = true →
    (host.after earlier).replies ≠ []

variable {host : ScriptedHost}

theorem queuedBy_append (first second : List Action) :
    queuedBy (first ++ second) = queuedBy first ++ queuedBy second :=
  List.filterMap_append

theorem after_append (first second : List Action) :
    host.after (first ++ second) = (host.after first).after second := by
  induction first generalizing host with
  | nil => rfl
  | cons action rest ih => cases action <;> exact ih

/-- Nothing that was put in is lost or overtaken. -/
theorem given_append_replies (actions : List Action) :
    host.given actions ++ (host.after actions).replies = host.replies ++ queuedBy actions := by
  induction actions generalizing host with
  | nil => exact (List.append_nil _).symm
  | cons action rest ih =>
    cases action with
    | queue reply =>
      calc (host.queueing reply).given rest ++ ((host.queueing reply).after rest).replies
          = (host.replies ++ [reply]) ++ queuedBy rest := ih
        _ = host.replies ++ queuedBy (.queue reply :: rest) := List.append_assoc _ _ _
    | ask call =>
      have split := List.take_append_drop ([call].countP Call.usesReply) host.replies
      rw [given, after, List.append_assoc, ih, answer_replies, ← List.append_assoc, split]
      rfl

/-- The record grows by exactly the requests that leave a trace, whatever they were answered. -/
theorem record_after (actions : List Action) :
    (host.after actions).record = host.record ++ (askedBy actions).filter Call.isRecorded := by
  induction actions generalizing host with
  | nil => exact (List.append_nil _).symm
  | cons action rest ih =>
    cases action with
    | queue reply => exact ih
    | ask call =>
      rw [after, ih, answer_record, List.append_assoc, ← List.filter_append]
      rfl

section served

theorem allServed_nil : AllServed host [] := by
  intro earlier call later split
  cases earlier <;> cases split

theorem allServed_queue {reply : QueryReply} {rest : List Action} :
    AllServed host (.queue reply :: rest) ↔ AllServed (host.queueing reply) rest := by
  constructor
  · intro served earlier call later split
    exact served (.queue reply :: earlier) call later (congrArg _ split)
  · intro served earlier call later split
    cases earlier with
    | nil => cases split
    | cons first earlier =>
      cases split
      exact served earlier call later rfl

theorem allServed_ask {call : Call} {rest : List Action} :
    AllServed host (.ask call :: rest) ↔
      (call.usesReply = true → host.replies ≠ []) ∧ AllServed (answer call host).state rest := by
  constructor
  · intro served
    refine ⟨served [] call rest rfl, ?_⟩
    intro earlier other later split
    exact served (.ask call :: earlier) other later (congrArg _ split)
  · rintro ⟨here, served⟩ earlier other later split
    cases earlier with
    | nil =>
      cases split
      exact here
    | cons first earlier =>
      cases split
      exact served earlier other later rfl

instance decidableAllServed : (host : ScriptedHost) → (actions : List Action) →
    Decidable (AllServed host actions)
  | _, [] => .isTrue allServed_nil
  | host, .queue reply :: rest =>
    have := decidableAllServed (host.queueing reply) rest
    decidable_of_iff _ allServed_queue.symm
  | host, .ask call :: rest =>
    have := decidableAllServed (answer call host).state rest
    decidable_of_iff _ allServed_ask.symm

/-- As many replies were given as there were queries. -/
theorem length_given {actions : List Action} (served : AllServed host actions) :
    (host.given actions).length = queriesIn actions := by
  induction actions generalizing host with
  | nil => rfl
  | cons action rest ih =>
    cases action with
    | queue reply => exact ih (allServed_queue.mp served)
    | ask call =>
      obtain ⟨here, behind⟩ := allServed_ask.mp served
      have taken : (host.replies.take ([call].countP Call.usesReply)).length =
          [call].countP Call.usesReply := by
        rw [List.length_take, Nat.min_eq_left]
        by_cases query : call.usesReply = true
        · rw [List.countP_cons_of_pos query]
          exact List.length_pos_iff.mpr (here query)
        · rw [List.countP_cons_of_neg query]
          exact Nat.zero_le _
      rw [given, List.length_append, taken, ih behind, queriesIn, queriesIn, ← List.countP_append]
      rfl

/-- One reply is gone for each query, from the front. -/
theorem replies_after {actions : List Action} (served : AllServed host actions) :
    (host.after actions).replies = (host.replies ++ queuedBy actions).drop (queriesIn actions) := by
  rw [← given_append_replies, List.drop_left' (length_given served)]

end served

/-- Replies are given first in, first out, and the record only grows. At every point of every run of
actions, a run of the partitioning tool that only prints is given the reply that was put in as
many places behind the first as there were such runs before, if it was put in by then and all of
them were given one; with no reply left it fails and uses up none; no other request uses one up.
The record holds the requests that leave a trace, in order, and what comes later only adds to it. -/
theorem replies_first_in_first_out (host : ScriptedHost) (before later : List Action) :
    let met := host.after before
    (∀ disk script, (∀ command ∈ script.commands, command = .print) →
      let answered := answer (.parted disk script) met
      let everQueued := host.replies ++ queuedBy (before ++ .ask (.parted disk script) :: later)
      (AllServed host before → queriesIn before < (host.replies ++ queuedBy before).length →
        ∃ reply, everQueued[queriesIn before]? = some reply ∧ answered.reply = reply.answer ∧
          met.replies = reply :: answered.state.replies) ∧
      (met.replies = [] →
        answered.reply = .error (.commandFailed partedProgram (some 1)
            "FAKE HAL: no scripted parted reply".toList) ∧
          answered.state.replies = [])) ∧
    (∀ call, (∀ disk script, call = .parted disk script →
        ∃ command ∈ script.commands, command ≠ .print) →
      (answer call met).state.replies = met.replies) ∧
    met.record = host.record ++ (askedBy before).filter Call.isRecorded ∧
    (host.after (before ++ later)).record =
      met.record ++ (askedBy later).filter Call.isRecorded := by
  intro met
  refine ⟨?_, ?_, record_after before, ?_⟩
  · intro disk script prints answered everQueued
    have query : script.isQuery = true := Parted.Script.isQuery_iff.mpr prints
    refine ⟨?_, answer_query_unserved disk query⟩
    intro served queued
    have left : met.replies = (host.replies ++ queuedBy before).drop (queriesIn before) :=
      replies_after served
    have ever : everQueued = host.replies ++ queuedBy before ++ queuedBy later := by
      rw [List.append_assoc]
      exact congrArg _ (queuedBy_append before _)
    rw [List.drop_eq_getElem_cons queued] at left
    obtain ⟨next, rest⟩ := answer_query disk query left
    refine ⟨_, ?_, next, left.trans (congrArg _ rest.symm)⟩
    rw [ever, List.getElem?_append_left queued, List.getElem?_eq_getElem queued]
  · intro call other
    refine answer_unused ?_
    intro used
    obtain ⟨disk, script, rfl, prints⟩ := Call.usesReply_iff.mp used
    obtain ⟨command, listed, changes⟩ := other disk script rfl
    exact changes (prints command listed)
  · rw [after_append, record_after]

/-- Between two queries a wipe and a new label fail, and a third reply is put in. -/
theorem second_query_given_second_reply :
    let query : Parted.Script := ⟨.machine, some "GB".toList, [.print]⟩
    let label : Parted.Script := ⟨.script, none, [.makeLabel "msdos".toList]⟩
    let host := { empty with
      replies := [.printed "first".toList]
      failures := ⟨some "no label".toList, none, none, some "no sector".toList⟩ }
    let before : List Action := [.ask (.parted firstDisk query), .queue (.failed "second".toList),
      .ask (.wipeBootSector firstDisk), .ask (.parted firstDisk label), .ask (.nodeKind firstDisk),
      .queue (.printed "third".toList)]
    AllServed host before ∧
      (answer (.parted firstDisk query) (host.after before)).reply =
        .error (failedTool partedProgram "second".toList) ∧
      (answer (.unmount firstDisk) (host.after before)).state.replies =
        [.failed "second".toList, .printed "third".toList] ∧
      (host.after (before ++ [.ask .readMounts])).record =
        [.parted firstDisk query, .wipeBootSector firstDisk, .parted firstDisk label,
          .readMounts] := by
  intro query label host before
  have served : AllServed host before := by decide
  obtain ⟨queries, others, -, record⟩ :=
    replies_first_in_first_out host before [.ask .readMounts]
  obtain ⟨reply, second, answered, left⟩ :=
    (queries firstDisk query (by decide)).1 served (by decide)
  cases second
  refine ⟨served, answered, ?_, record.trans (by decide)⟩
  rw [others _ fun _ _ => Call.noConfusion, left]
  rfl

end DiskPrep.ScriptedHost
