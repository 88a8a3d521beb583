import DiskPrep.Workflow

/-!
Any host made to fail. For each kind of request there is a queue; an error at its
front is the answer, and the host behind is not asked.
-/
namespace DiskPrep

inductive Faults.Kind where
  | readPartitions
  | readMounts
  | nodeKind
  | parted
  | wipeBootSector
  | formatExt4
  | unmount
  deriving DecidableEq, Repr

/-- The errors still to come, and the requests let through between them. -/
structure Faults where
  queue : Faults.Kind → List (Option HostError)

namespace Faults

def quiet : Faults := ⟨fun _ => []⟩

/-- More errors for one kind, behind those that wait already. -/
def push (faults : Faults) (kind : Kind) (more : List (Option HostError)) : Faults :=
  ⟨fun k => if k = kind then faults.queue k ++ more else faults.queue k⟩

def pop (faults : Faults) (kind : Kind) : Faults :=
  ⟨fun k => if k = kind then (faults.queue k).tail else faults.queue k⟩

/-- The error that is the answer to the next request of a kind, if it fails. -/
def front? (faults : Faults) (kind : Kind) : Option HostError := (faults.queue kind).head?.join

/-- The kind of a request that can fail, with the failure as its answer. -/
def refusal? : (call : Call) → Option (Kind × (HostError → call.Reply))
  | .readPartitions => some (.readPartitions, .error)
  | .readMounts => some (.readMounts, .error)
  | .isRoot => none
  | .nodeKind _ => some (.nodeKind, .error)
  | .parted .. => some (.parted, .error)
  | .wipeBootSector _ => some (.wipeBootSector, .error)
  | .formatExt4 .. => some (.formatExt4, .error)
  | .unmount _ => some (.unmount, .error)
  | .settle _ => none

end Faults

def Host.withFaults {σ : Type} (host : Host σ) : Host (Faults × σ) where
  answer call := fun (faults, state) =>
    match Faults.refusal? call with
    | none =>
      let answer := host.answer call state
      ⟨answer.reply, (faults, answer.state), answer.lines⟩
    | some (kind, refuse) =>
      match faults.front? kind with
      | some cause => ⟨refuse cause, (faults.pop kind, state), []⟩
      | none =>
        let answer := host.answer call state
        ⟨answer.reply, (faults.pop kind, answer.state), answer.lines⟩

end DiskPrep
