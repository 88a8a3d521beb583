import DiskPrep.CommandLine.Parse
import DiskPrep.Machine.Host
import DiskPrep.Session.Command

/-!
The program from its arguments to its exit status.
-/
namespace DiskPrep.Program

open Workflow

structure Ending where
  printed : Text
  status : Nat
  deriving DecidableEq, Repr

def usageStatus : Nat := 2

/-- The end of a run without a request. Help and version are what was asked for;
any other refusal prints nothing here. -/
def refused : CommandLine.Refusal → Ending
  | .help true => ⟨CommandLine.fullHelp, 0⟩
  | .help false => ⟨CommandLine.shortHelp, 0⟩
  | .version => ⟨CommandLine.versionText, 0⟩
  | _ => ⟨[], usageStatus⟩

def ending : Except Failure Text → Ending
  | .ok printed => ⟨printed, Outcome.ok.code⟩
  | .error failure => ⟨Session.asLine failure.message, failure.outcome.code⟩

def carryOut (files : Preflight.FileView) (settings : Settings) (request : CommandLine.Request) :
    Workflow (Except Failure Text) := do
  match ← Preflight.check files settings with
  | .error failure => return .error failure
  | .ok () => Session.dispatch settings request

/-- The whole program: arguments are read, the environment is asked for the share
of the system partition, and the request is carried out. -/
def ofArguments (files : Preflight.FileView) (searchPath : Text) (override? : Option Text)
    (arguments : List Text) : Workflow Ending :=
  match CommandLine.parse arguments with
  | .error refusal => return refused refusal
  | .ok request => do
    tellEach (Settings.overrideNotices override?)
    let settings := (Settings.standard searchPath).override request override?
    return ending (← carryOut files settings request)

end DiskPrep.Program
