import DiskPrep.Notice

/-!
Everything a run does to its host, as a tree of requests. A workflow says what to
ask next for every answer so far; a host answers. Nothing else can happen, so a
property of all hosts is a property of this tree, and a run leaves the list of
what was asked, answered and said.
-/
namespace DiskPrep

inductive NodeKind where
  | missing
  | blockDevice
  | other
  deriving DecidableEq, Repr

inductive Call where
  /-- The kernel's report of block devices. -/
  | readPartitions
  /-- The kernel's table of mounts. -/
  | readMounts
  /-- Whether the run has the superuser's rights. -/
  | isRoot
  | nodeKind (path : Path)
  /-- One run of the partitioning tool; the answer is what it printed. -/
  | parted (disk : Path) (script : Parted.Script)
  /-- The first sector of the disk is overwritten with zeros. -/
  | wipeBootSector (disk : Path)
  | formatExt4 (device : Path) (force : Bool)
  | unmount (target : Path)
  /-- A pause. -/
  | settle (delay : Delay)
  deriving DecidableEq, Repr

@[reducible] def Call.Reply : Call → Type
  | readPartitions | readMounts | parted .. => Except HostError Text
  | nodeKind _ => Except HostError NodeKind
  | wipeBootSector _ | formatExt4 .. | unmount _ => Except HostError Unit
  | isRoot => Bool
  | settle _ => Unit

/-- Requests with what to do on each answer, and notices between them. -/
inductive Workflow (α : Type) where
  | done (value : α)
  | say (notice : Notice) (next : Workflow α)
  | ask (call : Call) (next : call.Reply → Workflow α)

namespace Workflow

/-- The second workflow goes on with the value of the first. -/
def bind {α β : Type} : Workflow α → (α → Workflow β) → Workflow β
  | done value, f => f value
  | say notice next, f => say notice (bind next f)
  | ask call next, f => ask call fun reply => bind (next reply) f

instance : Monad Workflow where
  pure := done
  bind := bind

def request (call : Call) : Workflow call.Reply := ask call done

def tell (notice : Notice) : Workflow Unit := say notice (done ())

def tellEach : List Notice → Workflow Unit
  | [] => done ()
  | notice :: rest => say notice (tellEach rest)

@[simp] theorem pure_eq {α : Type} (value : α) : (pure value : Workflow α) = done value := rfl

@[simp] theorem bind_eq {α β : Type} (w : Workflow α) (f : α → Workflow β) :
    (w >>= f) = w.bind f := rfl

@[simp] theorem bind_done {α : Type} (w : Workflow α) : w.bind done = w := by
  induction w with
  | done value => rfl
  | say notice next ih => simp only [bind, ih]
  | ask call next ih => simp only [bind, ih]

theorem bind_assoc {α β γ : Type} (w : Workflow α) (f : α → Workflow β) (g : β → Workflow γ) :
    (w.bind f).bind g = w.bind fun value => (f value).bind g := by
  induction w with
  | done value => rfl
  | say notice next ih => simp only [bind, ih]
  | ask call next ih => simp only [bind, ih]

end Workflow

inductive Event where
  /-- A line of the log, written by the run or by the host. -/
  | said (line : LogLine)
  /-- A request and its answer. -/
  | asked (call : Call) (reply : call.Reply)

/-- An answer, the host's state after it and the lines that the host wrote. -/
structure Answer (σ ρ : Type) where
  reply : ρ
  state : σ
  lines : List LogLine

/-- A host answers every request from its state. -/
structure Host (σ : Type) where
  answer : (call : Call) → σ → Answer σ call.Reply

/-- The end of a run: its value, the host's state and all that happened. -/
structure Run (σ α : Type) where
  value : α
  state : σ
  events : List Event

namespace Run

def log {σ α : Type} (run : Run σ α) : List LogLine :=
  run.events.filterMap fun
    | .said line => some line
    | .asked .. => none

def calls {σ α : Type} (run : Run σ α) : List Call :=
  run.events.filterMap fun
    | .said _ => none
    | .asked call _ => some call

/-- The same run, after what has happened before it. -/
def after {σ α : Type} (earlier : List Event) (run : Run σ α) : Run σ α :=
  { run with events := earlier ++ run.events }

end Run

namespace Workflow

/-- Runs a workflow on a host. A host's lines come before the request that they
belong to is counted as answered. -/
def run {σ α : Type} (host : Host σ) : Workflow α → σ → Run σ α
  | done value, state => ⟨value, state, []⟩
  | say notice next, state => (run host next state).after [.said notice.line]
  | ask call next, state =>
    let answer := host.answer call state
    (run host (next answer.reply) answer.state).after
      (answer.lines.map Event.said ++ [.asked call answer.reply])

theorem run_bind {σ α β : Type} (host : Host σ) (w : Workflow α) (f : α → Workflow β) (state : σ) :
    (w.bind f).run host state =
      let first := w.run host state
      ((f first.value).run host first.state).after first.events := by
  induction w generalizing state with
  | done value => simp [bind, run, Run.after]
  | say notice next ih => simp [bind, run, ih, Run.after]
  | ask call next ih => simp [bind, run, ih, Run.after]

end Workflow

end DiskPrep
