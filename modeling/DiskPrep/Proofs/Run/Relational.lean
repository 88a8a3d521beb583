import DiskPrep.Proofs.Run.Scripted

/-!
Two runs side by side. They are in step when they release mounts of the same places at the
same points of their traces (`InStep`). What is known of the hosts at the start is a relation,
and what is known at the end is one of the values and the hosts, so that parts are joined by
`InStep.bind`. The hosts of two runs of one script are its twins (`Twin`): only their records
differ, and their tables of mounts as far as the relation of the tables allows.
-/
namespace DiskPrep

/-- Where the request releases a mount. -/
def Call.released? : Call → Option (List Path.Component)
  | unmount point => some point.components
  | _ => none

/-- Where the request at a place of a trace releases a mount. -/
def releasedAt (calls : List Call) (i : Nat) : Option (List Path.Component) :=
  calls[i]?.bind Call.released?

theorem releasedAt_append {first second : List Call} (i : Nat) :
    releasedAt (first ++ second) (first.length + i) = releasedAt second i := by
  rw [releasedAt, List.getElem?_append_right (Nat.le_add_right _ i), Nat.add_sub_cancel_left,
    releasedAt]

theorem releasedAt_of_map {calls others : List Call}
    (same : calls.map Call.released? = others.map Call.released?) (i : Nat) :
    releasedAt calls i = releasedAt others i := by
  have place : ∀ calls : List Call, releasedAt calls i = (calls.map Call.released?)[i]?.join := by
    intro calls
    rw [releasedAt, List.getElem?_map]
    cases calls[i]? <;> rfl
  rw [place, place, same]

namespace ScriptedHost

/-- Two states of runs on the host that have used up the same replies, with tables of mounts
that are related. -/
def Twin (host : ScriptedHost) (Q : Text → Text → Prop) (first second : ScriptedHost) : Prop :=
  ∃ replies record other mounts others,
    first = { host with replies := replies, record := record, mounts := mounts } ∧
      second = { host with replies := replies, record := other, mounts := others } ∧
      Q mounts others

end ScriptedHost

namespace Workflow

open ScriptedHost

variable {α β γ δ ε ζ : Type}

/-- Both runs end well, with values and hosts related by `T`, or both fail, with failures
related by `R`. -/
def Ended (R : ε → ζ → Prop) (T : α → β → ScriptedHost → ScriptedHost → Prop) :
    Except ε α → Except ζ β → ScriptedHost → ScriptedHost → Prop
  | .ok a, .ok b => T a b
  | .error failure, .error other => fun _ _ => R failure other
  | _, _ => fun _ _ => False

/-- Both runs come to one value, and their hosts are twins. -/
abbrev SameValue (host : ScriptedHost) (Q : Text → Text → Prop) (a b : α)
    (first second : ScriptedHost) : Prop :=
  a = b ∧ host.Twin Q first second

/-- From hosts related by `S` the workflows release mounts of the same places at the same
places of their traces, and come to values and hosts related by `P`. -/
def InStep (S : ScriptedHost → ScriptedHost → Prop) (w : Workflow α) (w' : Workflow β)
    (P : α → β → ScriptedHost → ScriptedHost → Prop) : Prop :=
  ∀ first second, S first second →
    (w.trace scripted first).map Call.released? = (w'.trace scripted second).map Call.released? ∧
      P (w.run scripted first).value (w'.run scripted second).value
        (w.run scripted first).state (w'.run scripted second).state

namespace InStep

variable {S : ScriptedHost → ScriptedHost → Prop} {w : Workflow α} {w' : Workflow β}
  {P : α → β → ScriptedHost → ScriptedHost → Prop}

theorem of_silent (inStep : InStep S w.silent w'.silent P) : InStep S w w' P := by
  intro first second related
  obtain ⟨released, ended⟩ := inStep first second related
  rw [trace_silent, trace_silent] at released
  simp only [run_silent] at ended
  exact ⟨released, ended⟩

theorem silent (inStep : InStep S w w' P) : InStep S w.silent w'.silent P := by
  intro first second related
  rw [trace_silent, trace_silent]
  simp only [run_silent]
  exact inStep first second related

theorem done {a : α} {b : β} (ended : ∀ first second, S first second → P a b first second) :
    InStep S (.done a) (.done b) P := by
  intro first second related
  exact ⟨rfl, ended first second related⟩

theorem bind {f : α → Workflow γ} {f' : β → Workflow δ}
    {R : γ → δ → ScriptedHost → ScriptedHost → Prop} (inStep : InStep S w w' P)
    (next : ∀ a b, InStep (P a b) (f a) (f' b) R) : InStep S (w.bind f) (w'.bind f') R := by
  intro first second related
  obtain ⟨released, between⟩ := inStep first second related
  obtain ⟨later, ended⟩ := next _ _ _ _ between
  simp only [trace_bind, List.map_append, run_bind_value, run_bind_state]
  exact ⟨by rw [released, later], ended⟩

/-- Runs that may fail go on in step when they do so from where both have ended well. -/
theorem andThen {R : ε → ζ → Prop} {T : α → β → ScriptedHost → ScriptedHost → Prop}
    {w : Workflow (Except ε α)} {w' : Workflow (Except ζ β)} {f : Except ε α → Workflow γ}
    {f' : Except ζ β → Workflow δ} {P : γ → δ → ScriptedHost → ScriptedHost → Prop}
    (inStep : InStep S w w' (Ended R T)) (next : ∀ a b, InStep (T a b) (f (.ok a)) (f' (.ok b)) P)
    (stop : ∀ failure other, R failure other →
      InStep (fun _ _ => True) (f (.error failure)) (f' (.error other)) P) :
    InStep S (w.bind f) (w'.bind f') P := by
  refine inStep.bind ?_
  intro ended ended' first second related
  cases ended with
  | ok a =>
    cases ended' with
    | ok b => exact next a b first second related
    | error other => exact related.elim
  | error failure =>
    cases ended' with
    | ok b => exact related.elim
    | error other => exact stop failure other related first second trivial

theorem ask {call call' : Call} {f : call.Reply → Workflow α} {f' : call'.Reply → Workflow β}
    (recorded : call.isRecorded = call'.isRecorded) (released : call.released? = call'.released?)
    (next : ∀ first second, S first second →
      InStep (fun left right => left = (answer call first).state ∧
          right = (answer call' second).state)
        (f (answer call first).reply) (f' (answer call' second).reply) P) :
    InStep S (.ask call f) (.ask call' f') P := by
  intro first second related
  obtain ⟨later, ended⟩ := next first second related _ _ ⟨rfl, rfl⟩
  refine ⟨?_, ended⟩
  cases leaves : call.isRecorded with
  | true =>
    rw [trace_ask_recorded leaves, trace_ask_recorded (recorded ▸ leaves), List.map_cons,
      List.map_cons, released]
    exact congrArg _ later
  | false =>
    rw [trace_ask_unrecorded leaves, trace_ask_unrecorded (recorded ▸ leaves)]
    exact later

section twin

variable {host : ScriptedHost} {Q : Text → Text → Prop} {p q : Path}

/-- Runs that have come to one value go on with it. -/
theorem bindSame {w w' : Workflow α} {f : α → Workflow γ} {f' : α → Workflow δ}
    {R : γ → δ → ScriptedHost → ScriptedHost → Prop} (inStep : InStep S w w' (SameValue host Q))
    (next : ∀ a, InStep (host.Twin Q) (f a) (f' a) R) : InStep S (w.bind f) (w'.bind f') R := by
  refine inStep.bind ?_
  rintro a _ first second ⟨rfl, twin⟩
  exact next a first second twin

/-- Paths with the same components lead to the same. -/
theorem nodeKind {f f' : Except HostError NodeKind → Workflow _} (same : p.components = q.components)
    (next : ∀ kind, InStep (Twin host Q) (f kind) (f' kind) P) :
    InStep (Twin host Q) (.ask (.nodeKind p) f) (.ask (.nodeKind q) f') P := by
  refine ask rfl rfl ?_
  rintro _ _ ⟨replies, record, other, mounts, others, rfl, rfl, related⟩ left right ⟨rfl, rfl⟩
  have alike : Path.same p = Path.same q := by
    funext path
    rw [Path.same, Path.same, same]
  simp only [answer, kindOf, alike]
  exact next _ _ _ ⟨replies, record, other, mounts, others, rfl, rfl, related⟩

theorem readPartitions {f f' : Except HostError Text → Workflow _}
    (next : ∀ report, InStep (Twin host Q) (f report) (f' report) P) :
    InStep (Twin host Q) (.ask .readPartitions f) (.ask .readPartitions f') P := by
  refine ask rfl rfl ?_
  rintro _ _ ⟨replies, record, other, mounts, others, rfl, rfl, related⟩ left right ⟨rfl, rfl⟩
  exact next _ _ _ ⟨replies, _, _, mounts, others, rfl, rfl, related⟩

/-- The script's next reply does not depend on the disk. -/
theorem parted {f f' : Except HostError Text → Workflow _} {script : Parted.Script}
    (next : ∀ reply, InStep (Twin host Q) (f reply) (f' reply) P) :
    InStep (Twin host Q) (.ask (.parted p script) f) (.ask (.parted q script) f') P := by
  refine ask rfl rfl ?_
  rintro _ _ ⟨replies, record, other, mounts, others, rfl, rfl, related⟩ left right ⟨rfl, rfl⟩
  simp only [answer, answerParted, recording]
  split
  · cases replies with
    | nil => exact next _ _ _ ⟨[], _, _, mounts, others, rfl, rfl, related⟩
    | cons reply rest =>
      cases reply with
      | printed output => exact next _ _ _ ⟨rest, _, _, mounts, others, rfl, rfl, related⟩
      | failed output => exact next _ _ _ ⟨rest, _, _, mounts, others, rfl, rfl, related⟩
  · exact next _ _ _ ⟨replies, _, _, mounts, others, rfl, rfl, related⟩

theorem wipeBootSector {f f' : Except HostError Unit → Workflow _}
    (next : ∀ reply, InStep (Twin host Q) (f reply) (f' reply) P) :
    InStep (Twin host Q) (.ask (.wipeBootSector p) f) (.ask (.wipeBootSector q) f') P := by
  refine ask rfl rfl ?_
  rintro _ _ ⟨replies, record, other, mounts, others, rfl, rfl, related⟩ left right ⟨rfl, rfl⟩
  exact next _ _ _ ⟨replies, _, _, mounts, others, rfl, rfl, related⟩

theorem formatExt4 {f f' : Except HostError Unit → Workflow _} {force : Bool}
    (next : ∀ reply, InStep (Twin host Q) (f reply) (f' reply) P) :
    InStep (Twin host Q) (.ask (.formatExt4 p force) f) (.ask (.formatExt4 q force) f') P := by
  refine ask rfl rfl ?_
  rintro _ _ ⟨replies, record, other, mounts, others, rfl, rfl, related⟩ left right ⟨rfl, rfl⟩
  exact next _ _ _ ⟨replies, _, _, mounts, others, rfl, rfl, related⟩

theorem settle {f f' : Unit → Workflow _} {delay : Delay}
    (next : InStep (Twin host Q) (f ()) (f' ()) P) :
    InStep (Twin host Q) (.ask (.settle delay) f) (.ask (.settle delay) f') P := by
  refine ask rfl rfl ?_
  rintro _ _ ⟨replies, record, other, mounts, others, rfl, rfl, related⟩ left right ⟨rfl, rfl⟩
  exact next _ _ ⟨replies, _, _, mounts, others, rfl, rfl, related⟩

/-- Each run reads its own table. -/
theorem readMounts {f f' : Except HostError Text → Workflow _}
    (next : ∀ table table', Q table table' →
      InStep (Twin host fun mounts others => mounts = table ∧ others = table')
        (f (.ok table)) (f' (.ok table')) P) :
    InStep (Twin host Q) (.ask .readMounts f) (.ask .readMounts f') P := by
  refine ask rfl rfl ?_
  rintro _ _ ⟨replies, record, other, mounts, others, rfl, rfl, related⟩ left right ⟨rfl, rfl⟩
  exact next mounts others related _ _ ⟨replies, _, _, mounts, others, rfl, rfl, rfl, rfl⟩

end twin

end InStep

end Workflow

end DiskPrep
