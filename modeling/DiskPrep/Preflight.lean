import DiskPrep.Outcome
import DiskPrep.Settings
import DiskPrep.Workflow

/-!
Checks before any command: every tool is installed, then the rights suffice.
-/
namespace DiskPrep.Preflight

open Workflow

/-- What is known of a file that exists and can be looked at. -/
structure FileStatus where
  isRegular : Bool
  mode : Nat
  deriving DecidableEq, Repr

abbrev FileView := Path → Option FileStatus

/-- A regular file that somebody may execute. -/
def FileStatus.isExecutable (s : FileStatus) : Bool := s.isRegular && s.mode &&& 0o111 != 0

/-- The directories of a search path; empty ones do not count. -/
def directories (searchPath : Text) : List Text :=
  (searchPath.splitOn ':').filter fun directory => !directory.isEmpty

/-- The first directory of the search path with the tool decides. -/
def findTool? (files : FileView) (searchPath tool : Text) : Option Path :=
  ((directories searchPath).map fun directory => Path.join directory tool).find? fun path =>
    (files path).any FileStatus.isExecutable

/-- The tools are looked for in order, up to the first that is missing. -/
def checkTools (files : FileView) (searchPath : Text) : List Text → Workflow (Except Failure Unit)
  | [] => return .ok ()
  | tool :: rest => do
    if (findTool? files searchPath tool).isSome then
      tell (.toolFound tool)
      checkTools files searchPath rest
    else return .error (.noTools tool)

/-- The tools first, then the rights. -/
def check (files : FileView) (settings : Settings) : Workflow (Except Failure Unit) := do
  match ← checkTools files settings.searchPath settings.tools with
  | .error failure => return .error failure
  | .ok () =>
    if ← request .isRoot then return .ok () else return .error .noPermissions

end DiskPrep.Preflight
