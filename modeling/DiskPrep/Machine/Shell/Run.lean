import DiskPrep.Machine.Shell.Execution

/-!
Runs of programs from their start to their end, without an input.
-/
namespace DiskPrep.Machine.Shell

/-- A run that has ended: how, with what output on both channels, and with which files
afterwards. -/
structure Finished where
  exit : Exit
  output : Text
  diagnostics : Text
  tree : FileTree
  deriving DecidableEq, Repr

def firstMask : Nat := 0o022

def environment : List Binding :=
  [⟨"PATH".toList, some (Text.bytewise FileTree.toolDirectory), true, false⟩,
    ⟨"HOME".toList, some "/root".toList, true, false⟩]

/-- The state of a process that has not begun. Its input is empty, and what it writes is
kept apart by channel. -/
def State.initial (tree : FileTree) : State where
  number := State.firstNumber
  depth := 0
  scriptName := []
  commandName := none
  line := 0
  readLine := 1
  bindings := environment
  arguments := []
  optionIndex := 1
  optionPlace := none
  functions := []
  found := []
  aliases := []
  options := []
  status := 0
  outputStatus := 0
  savedStatus := none
  descriptors := [(0, 0), (1, 1), (2, 2)]
  traps := []
  ignored := []
  pending := []
  loops := 0
  calls := 0
  scopes := []
  directory := FileTree.workLocation
  doubled := false
  mask := firstMask
  jobs := []
  lastJob := none
  streams := [.nowhere, .collected [], .collected []]
  tree := tree
  documents := []
  nextDocument := 0
  nextNumber := State.firstNumber + 1
  waiting := []
  ended := []
  rounds := 0
  lastRound := Action.longTime
  sent := []

def written (s : State) (n : Nat) : Text :=
  match s.streams[n]? with
  | some (.collected text) => text.reverse
  | _ => []

/-- Runs a program to its end, and all commands that it has not waited for. What never
ends is killed. -/
def finish (tree : FileTree) (image : Image) : Finished :=
  let whole : Action Exit := do
    let exit ← Action.endProcess runner (Invocation.become runner Invocation.chainLimit image)
    Action.runLeft runner
    return exit
  let (result, s) := whole.run.run (State.initial tree)
  let exit := match result with
    | .ok exit => exit
    | .error (.killed signal) => .signal signal
    | .error .late => .signal Signal.kill
    | .error _ => .status s.status
  ⟨exit, written s 1, written s 2, s.tree⟩

end DiskPrep.Machine.Shell
