import DiskPrep.Workflow

/-!
The history of a run: its requests in order, each with the state that the host had
when it got it and with the answer. A history is cut where workflows are joined
(`history_bind`), so what one part asks can be shown without the parts around it.
-/
namespace DiskPrep

/-- One request of a run, in the state that it met. -/
structure Moment (σ : Type) where
  state : σ
  call : Call
  reply : call.Reply

/-- The request was made with this answer, in whatever state. -/
def Answered {σ : Type} (history : List (Moment σ)) (call : Call) (reply : call.Reply) : Prop :=
  ∃ state, ⟨state, call, reply⟩ ∈ history

section answered

variable {σ : Type} {call : Call} {given reply : call.Reply}

theorem Answered.mono {history longer : List (Moment σ)} (answered : Answered history call reply)
    (within : history ⊆ longer) : Answered longer call reply := by
  obtain ⟨state, member⟩ := answered
  exact ⟨state, within member⟩

theorem not_answered {history : List (Moment σ)} (other : ∀ m ∈ history, m.call ≠ call) :
    ¬ Answered history call reply := by
  rintro ⟨state, member⟩
  exact other _ member rfl

end answered

namespace Workflow

variable {σ α β : Type}

/-- The requests of a run with the states that they met. -/
def history (host : Host σ) : Workflow α → σ → List (Moment σ)
  | done _, _ => []
  | say _ next, state => history host next state
  | ask call next, state =>
    let answer := host.answer call state
    ⟨state, call, answer.reply⟩ :: history host (next answer.reply) answer.state

@[simp] theorem tell_bind (notice : Notice) (f : Unit → Workflow β) :
    (tell notice).bind f = say notice (f ()) := rfl

@[simp] theorem done_bind (value : α) (f : α → Workflow β) : (done value).bind f = f value := rfl

@[simp] theorem run_done_value (host : Host σ) (value : α) (state : σ) :
    ((done value).run host state).value = value := rfl

@[simp] theorem run_done_state (host : Host σ) (value : α) (state : σ) :
    ((done value).run host state).state = state := rfl

@[simp] theorem history_done (host : Host σ) (value : α) (state : σ) :
    (done value).history host state = [] := rfl

@[simp] theorem run_say_value (host : Host σ) (notice : Notice) (next : Workflow α) (state : σ) :
    ((say notice next).run host state).value = (next.run host state).value := rfl

@[simp] theorem run_say_state (host : Host σ) (notice : Notice) (next : Workflow α) (state : σ) :
    ((say notice next).run host state).state = (next.run host state).state := rfl

@[simp] theorem history_say (host : Host σ) (notice : Notice) (next : Workflow α) (state : σ) :
    (say notice next).history host state = next.history host state := rfl

section ask

variable (host : Host σ) (call : Call) (next : call.Reply → Workflow α) (state : σ)

@[simp] theorem run_ask_value :
    ((ask call next).run host state).value =
      ((next (host.answer call state).reply).run host (host.answer call state).state).value := rfl

@[simp] theorem run_ask_state :
    ((ask call next).run host state).state =
      ((next (host.answer call state).reply).run host (host.answer call state).state).state := rfl

@[simp] theorem history_ask :
    (ask call next).history host state =
      ⟨state, call, (host.answer call state).reply⟩ ::
        (next (host.answer call state).reply).history host (host.answer call state).state := rfl

end ask

section bind

variable (host : Host σ) (w : Workflow α) (f : α → Workflow β) (state : σ)

@[simp] theorem run_bind_value :
    ((w.bind f).run host state).value =
      ((f (w.run host state).value).run host (w.run host state).state).value := by
  rw [run_bind]
  rfl

@[simp] theorem run_bind_state :
    ((w.bind f).run host state).state =
      ((f (w.run host state).value).run host (w.run host state).state).state := by
  rw [run_bind]
  rfl

/-- What follows is asked after all of what comes first, in the state it left. -/
@[simp] theorem history_bind :
    (w.bind f).history host state =
      w.history host state ++
        (f (w.run host state).value).history host (w.run host state).state := by
  induction w generalizing state with
  | done value => rfl
  | say notice next ih => exact ih state
  | ask call next ih =>
    simp only [bind, history_ask, run_ask_value, run_ask_state, ih, List.cons_append]

end bind

/-- Lines of the log are no requests, so they leave the calls as they are. -/
theorem calls_after_answer (run : Run σ α) (lines : List LogLine) (call : Call)
    (reply : call.Reply) :
    (run.after (lines.map Event.said ++ [.asked call reply])).calls = call :: run.calls := by
  induction lines with
  | nil => rfl
  | cons line rest ih => exact ih

/-- The history tells of exactly the requests that the run's events tell of. -/
theorem run_calls (host : Host σ) (w : Workflow α) (state : σ) :
    (w.run host state).calls = (w.history host state).map Moment.call := by
  induction w generalizing state with
  | done value => rfl
  | say notice next ih => exact ih state
  | ask call next ih =>
    rw [run, calls_after_answer, ih, history_ask, List.map_cons]

/-- The workflow less its notices. A run of it asks the same and ends the same, so what
is shown of a workflow without notices holds of every workflow that only adds some. -/
def silent : Workflow α → Workflow α
  | done value => done value
  | say _ next => silent next
  | ask call next => ask call fun reply => silent (next reply)

@[simp] theorem silent_done (value : α) : (done value).silent = done value := rfl

@[simp] theorem silent_say (notice : Notice) (next : Workflow α) :
    (say notice next).silent = next.silent := rfl

@[simp] theorem silent_ask (call : Call) (next : call.Reply → Workflow α) :
    (ask call next).silent = ask call fun reply => (next reply).silent := rfl

@[simp] theorem silent_bind (w : Workflow α) (f : α → Workflow β) :
    (w.bind f).silent = w.silent.bind fun value => (f value).silent := by
  induction w with
  | done value => rfl
  | say notice next ih => exact ih
  | ask call next ih => simp only [bind, silent, ih]

section silent

variable (host : Host σ) (w : Workflow α) (state : σ)

theorem run_silent :
    (w.silent.run host state).value = (w.run host state).value ∧
      (w.silent.run host state).state = (w.run host state).state := by
  induction w generalizing state with
  | done value => exact ⟨rfl, rfl⟩
  | say notice next ih => exact ih state
  | ask call next ih => exact ih _ _

theorem history_silent : w.silent.history host state = w.history host state := by
  induction w generalizing state with
  | done value => rfl
  | say notice next ih => exact ih state
  | ask call next ih => simp only [silent, history_ask, ih]

end silent

/-- What each answer does to the host's state, a whole run does. -/
theorem run_relates {host : Host σ} {R : σ → σ → Prop} (refl : ∀ state, R state state)
    (trans : ∀ {a b c}, R a b → R b c → R a c)
    (step : ∀ call state, R state (host.answer call state).state) (w : Workflow α) (state : σ) :
    R state (w.run host state).state := by
  induction w generalizing state with
  | done value => exact refl state
  | say notice next ih => exact ih state
  | ask call next ih => exact trans (step call state) (ih _ _)

/-- What each answer does to the host's state, has been done when a request is met. -/
theorem history_relates {host : Host σ} {R : σ → σ → Prop} (refl : ∀ state, R state state)
    (trans : ∀ {a b c}, R a b → R b c → R a c)
    (step : ∀ call state, R state (host.answer call state).state) (w : Workflow α) (state : σ)
    {m : Moment σ} (member : m ∈ w.history host state) : R state m.state := by
  induction w generalizing state with
  | done value => exact absurd member List.not_mem_nil
  | say notice next ih => exact ih state member
  | ask call next ih =>
    rcases List.mem_cons.mp member with rfl | member
    · exact refl state
    · exact trans (step call state) (ih _ _ member)

/-- Every request of a run was answered by its host. -/
theorem reply_of_mem_history {host : Host σ} {w : Workflow α} {state : σ} {m : Moment σ}
    (member : m ∈ w.history host state) : m.reply = (host.answer m.call m.state).reply := by
  induction w generalizing state with
  | done value => exact absurd member List.not_mem_nil
  | say notice next ih => exact ih member
  | ask call next ih =>
    rcases List.mem_cons.mp member with rfl | member
    · rfl
    · exact ih _ member

/-- A request that the first part of a history does not hold comes after all of it. -/
theorem split_after {earlier later first second : List (Moment σ)} {m : Moment σ}
    (split : first ++ second = earlier ++ m :: later) (absent : m ∉ first) :
    ∃ between, earlier = first ++ between ∧ second = between ++ m :: later := by
  obtain ⟨between, eq, rest⟩ | ⟨between, eq, rest⟩ := List.append_eq_append_iff.mp split
  · exact ⟨between, eq, rest⟩
  · cases between with
    | nil => exact ⟨[], by simpa using eq.symm, by simpa using rest.symm⟩
    | cons head tail =>
      obtain ⟨rfl, -⟩ := List.cons.inj (rest.trans List.cons_append)
      exact absurd (eq ▸ List.mem_append_right earlier List.mem_cons_self) absent

/-- A request that the second part of a history does not hold comes before all of it. -/
theorem split_before {earlier later first second : List (Moment σ)} {m : Moment σ}
    (split : first ++ second = earlier ++ m :: later) (absent : m ∉ second) :
    ∃ between, first = earlier ++ m :: between ∧ later = between ++ second := by
  obtain ⟨between, -, rest⟩ | ⟨between, eq, rest⟩ := List.append_eq_append_iff.mp split
  · exact absurd (rest ▸ List.mem_append_right between List.mem_cons_self) absent
  · cases between with
    | nil =>
      rw [List.nil_append] at rest
      exact absurd (rest ▸ List.mem_cons_self) absent
    | cons head tail =>
      obtain ⟨rfl, rfl⟩ := List.cons.inj rest
      exact ⟨tail, eq, rfl⟩

end Workflow

end DiskPrep
