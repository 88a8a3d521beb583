import DiskPrep.Machine.Shell.Lookup

/-!
Commands about what is run next: they leave loops, functions and the script, or run
commands from elsewhere.
-/
namespace DiskPrep.Machine.Shell.Builtin

/-- Leaves loops, or goes on with the next round of one. There is nothing to leave
outside of them. -/
def leaveLoops (flow : Nat → Flow) (arguments : List Text) : Action Outcome := do
  let count ← match arguments with
    | [] => pure 1
    | n :: _ => do
      match ← Action.number n with
      | 0 => Action.failNumber n
      | count => pure count
  match min count (← get).loops with
  | 0 => return .ended 0
  | count => return ⟨0, [], flow count⟩

def leaveCall (arguments : List Text) : Action Outcome := do
  match arguments with
  | [] => return ⟨(← get).status, [], .back false⟩
  | n :: _ => return ⟨← Action.number n, [], .back true⟩

/-- Leaves the script. An action on a signal leaves it with the status before. -/
def exit (arguments : List Text) : Action Outcome := do
  let s ← get
  let status ← match arguments with
    | [] => pure (s.savedStatus.getD s.status)
    | n :: _ => Action.number n
  Action.setStatus status
  throw .exited

def eval (run : Runner) (tested : Bool) (arguments : List Text) : Action Outcome := do
  let flow ← if arguments.isEmpty then do
      Action.setStatus 0
      pure Flow.next
    else Action.runText run tested (Text.spaced arguments)
  return ⟨(← get).status, [], flow⟩

def openText (path : Text) : Action Nat := do
  match (← get).openPath .read path with
  | .ok (n, s) =>
    set s
    return n
  | .error cause =>
    Action.fail ("cannot open ".toList ++ path ++ ": ".toList ++ Purpose.open.reason cause)

def source (run : Runner) (arguments : List Text) : Action Outcome := do
  match ← Switches.none arguments with
  | [] => return .ended 0
  | name :: _ =>
    let s ← get
    let path ← if name.contains '/' then pure name else
      match Lookup.search s (Lookup.currentPath s) name fun _ => true with
      | .ok path => pure path
      | .error _ => Action.fail (name ++ ": not found".toList)
    let script ← Action.scriptIn (← openText path)
    modify fun s => { s with commandName := some path }
    let flow ← Action.runScript run false script
    let flow := match flow with
      | .back _ => Flow.next
      | flow => flow
    return ⟨(← get).status, [], flow⟩

end DiskPrep.Machine.Shell.Builtin
