import DiskPrep.Proofs.Run.Scripted

/-!
What a run tells. Its notices are cut where workflows are joined (`told_bind`); those in front of a
run have their lines before its own (`run_tellEach_bind`). On a scripted host the lines that begin
as those of a dry run come from notices (`log_dryRun`), which are cut in the same way
(`marked_bind`). Of a run whose other notices begin differently they are exactly the intents
(`Tells.marked_eq`).
-/
namespace DiskPrep

/-- The intent that a notice tells of, if any. -/
def Notice.intent? : Notice → Option Intent
  | intended intent => some intent
  | _ => none

theorem Notice.eq_intended {notice : Notice} {intent : Intent}
    (told : notice.intent? = some intent) : notice = .intended intent := by
  cases notice with
  | intended given => exact congrArg Notice.intended (Option.some.inj told)
  | _ => cases told

/-- The line begins as the lines of a dry run do. -/
def LogLine.isDryRun (line : LogLine) : Bool := "DRY RUN: ".toList.isPrefixOf line.text

/-- The line of the notice begins as the lines of a dry run do. -/
def Notice.isDryRun (notice : Notice) : Bool := notice.line.isDryRun

theorem Notice.intended_isDryRun (intent : Intent) : (intended intent).isDryRun = true :=
  List.isPrefixOf_iff_prefix.mpr (List.prefix_append _ _)

/-- The line begins as those of a dry run only if the notice tells of an intent. -/
def Notice.Unambiguous (notice : Notice) : Prop :=
  notice.intent? = none → notice.isDryRun = false

theorem Notice.unambiguous_intended (intent : Intent) : (intended intent).Unambiguous := by
  intro plain
  cases plain

namespace Workflow

variable {σ α β : Type}

def told (host : Host σ) : Workflow α → σ → List Notice
  | done _, _ => []
  | say notice next, state => notice :: told host next state
  | ask call next, state =>
    let answer := host.answer call state
    told host (next answer.reply) answer.state

/-- What a run tells that it would have done, in order. -/
def intents (host : Host σ) (w : Workflow α) (state : σ) : List Intent :=
  (w.told host state).filterMap Notice.intent?

/-- The notices of a run whose lines begin as those of a dry run do, in order. -/
def marked (host : Host σ) (w : Workflow α) (state : σ) : List Notice :=
  (w.told host state).filter Notice.isDryRun

/-- The workflow tells nothing but such notices, whatever it is answered. -/
def Tells (P : Notice → Prop) : Workflow α → Prop
  | done _ => True
  | say notice next => P notice ∧ Tells P next
  | ask _ next => ∀ reply, Tells P (next reply)

section told

variable (host : Host σ) (state : σ)

@[simp] theorem told_done (value : α) : (done value).told host state = [] := rfl

@[simp] theorem told_say (notice : Notice) (next : Workflow α) :
    (say notice next).told host state = notice :: next.told host state := rfl

@[simp] theorem told_ask (call : Call) (next : call.Reply → Workflow α) :
    (ask call next).told host state =
      (next (host.answer call state).reply).told host (host.answer call state).state := rfl

@[simp] theorem told_bind (w : Workflow α) (f : α → Workflow β) :
    (w.bind f).told host state =
      w.told host state ++ (f (w.run host state).value).told host (w.run host state).state := by
  induction w generalizing state with
  | done value => rfl
  | say notice next ih => exact congrArg (notice :: ·) (ih state)
  | ask call next ih => exact ih _ _

@[simp] theorem intents_done (value : α) : (done value).intents host state = [] := rfl

/-- A notice that tells of no intent adds none. -/
theorem intents_say {notice : Notice} (plain : notice.intent? = none) (next : Workflow α) :
    (say notice next).intents host state = next.intents host state :=
  List.filterMap_cons_none plain

@[simp] theorem intents_ask (call : Call) (next : call.Reply → Workflow α) :
    (ask call next).intents host state =
      (next (host.answer call state).reply).intents host (host.answer call state).state := rfl

@[simp] theorem intents_bind (w : Workflow α) (f : α → Workflow β) :
    (w.bind f).intents host state =
      w.intents host state ++
        (f (w.run host state).value).intents host (w.run host state).state := by
  rw [intents, told_bind, List.filterMap_append, intents, intents]

@[simp] theorem marked_done (value : α) : (done value).marked host state = [] := rfl

theorem marked_bind (w : Workflow α) (f : α → Workflow β) :
    (w.bind f).marked host state =
      w.marked host state ++
        (f (w.run host state).value).marked host (w.run host state).state := by
  rw [marked, told_bind, List.filter_append, marked, marked]

end told

section tells

variable {P Q : Notice → Prop} {w : Workflow α}

theorem Tells.mono (tells : w.Tells P) (weaker : ∀ notice, P notice → Q notice) : w.Tells Q := by
  induction w with
  | done value => trivial
  | say notice next ih => exact ⟨weaker notice tells.1, ih tells.2⟩
  | ask call next ih => exact fun reply => ih reply (tells reply)

theorem Tells.bind {f : α → Workflow β} (tells : w.Tells P) (next : ∀ value, (f value).Tells P) :
    (w.bind f).Tells P := by
  induction w with
  | done value => exact next value
  | say notice rest ih => exact ⟨tells.1, ih tells.2⟩
  | ask call rest ih => exact fun reply => ih reply (tells reply)

theorem Tells.of_mem_told {host : Host σ} {state : σ} {notice : Notice} (tells : w.Tells P)
    (member : notice ∈ w.told host state) : P notice := by
  induction w generalizing state with
  | done value => exact absurd member List.not_mem_nil
  | say first next ih =>
    rcases List.mem_cons.mp member with rfl | member
    · exact tells.1
    · exact ih tells.2 member
  | ask call next ih => exact ih _ (tells _) member

/-- When all else begins differently, the notices that begin as those of a dry run are exactly the
intents. -/
theorem Tells.marked_eq {host : Host σ} {state : σ} (tells : w.Tells Notice.Unambiguous) :
    w.marked host state = (w.intents host state).map Notice.intended := by
  have each : ∀ notice ∈ w.told host state, notice.Unambiguous := fun _ => tells.of_mem_told
  rw [marked, intents]
  generalize w.told host state = notices at each
  induction notices with
  | nil => rfl
  | cons notice rest ih =>
    obtain ⟨here, later⟩ := List.forall_mem_cons.mp each
    cases told : notice.intent? with
    | none =>
      rw [List.filterMap_cons_none told, List.filter_cons_of_neg (Bool.eq_false_iff.mp (here told)),
        ih later]
    | some intent =>
      obtain rfl := Notice.eq_intended told
      rw [List.filterMap_cons_some told, List.map_cons,
        List.filter_cons_of_pos (Notice.intended_isDryRun intent), ih later]

/-- A workflow that tells of no intent has none. -/
theorem Tells.intents_eq_nil {host : Host σ} {state : σ}
    (tells : w.Tells fun notice => notice.intent? = none) : w.intents host state = [] := by
  refine List.filterMap_eq_nil_iff.mpr ?_
  intro notice member
  exact tells.of_mem_told member

end tells

section log

variable {host : Host σ} {state : σ}

theorem log_say (notice : Notice) (next : Workflow α) :
    ((say notice next).run host state).log = notice.line :: (next.run host state).log := rfl

/-- Requests are no lines of the log. -/
theorem log_after_answer (run : Run σ α) (lines : List LogLine) (call : Call)
    (reply : call.Reply) :
    (run.after (lines.map Event.said ++ [.asked call reply])).log = lines ++ run.log := by
  induction lines with
  | nil => rfl
  | cons line rest ih => exact congrArg (line :: ·) ih

theorem log_ask (call : Call) (next : call.Reply → Workflow α) :
    ((ask call next).run host state).log =
      (host.answer call state).lines ++
        ((next (host.answer call state).reply).run host (host.answer call state).state).log :=
  log_after_answer _ _ _ _

end log

section tellEach

variable (host : Host σ) (state : σ) (notices : List Notice)

/-- Notices in front of a run have their lines before its own, and change nothing else. -/
theorem run_tellEach_bind (f : Unit → Workflow α) :
    let run := ((tellEach notices).bind f).run host state
    let rest := (f ()).run host state
    run.value = rest.value ∧ run.log = notices.map Notice.line ++ rest.log ∧
      run.calls = rest.calls := by
  induction notices with
  | nil => exact ⟨rfl, rfl, rfl⟩
  | cons notice others ih =>
    obtain ⟨value, log, calls⟩ := ih
    exact ⟨value, congrArg (notice.line :: ·) log, calls⟩

theorem log_tellEach : ((tellEach notices).run host state).log = notices.map Notice.line := by
  obtain ⟨-, log, -⟩ := run_tellEach_bind host state notices done
  rw [bind_done] at log
  exact log.trans (List.append_nil _)

end tellEach

/-- No line of a scripted host begins as those of a dry run. -/
theorem answer_lines_isDryRun (call : Call) (host : ScriptedHost) :
    (scripted.answer call host).lines.filter LogLine.isDryRun = [] := by
  cases call <;> rfl

/-- The lines of the log that begin as those of a dry run come from notices. -/
theorem log_dryRun (w : Workflow α) (host : ScriptedHost) :
    (w.run scripted host).log.filter LogLine.isDryRun =
      (w.marked scripted host).map Notice.line := by
  rw [marked]
  induction w generalizing host with
  | done value => rfl
  | say notice next ih =>
    rw [log_say, told_say, List.filter_cons, List.filter_cons, ih, Notice.isDryRun]
    split <;> rfl
  | ask call next ih => rw [log_ask, List.filter_append, answer_lines_isDryRun, ih]; rfl

end Workflow

end DiskPrep
