import DiskPrep.Machine.Shell.Signal

/-!
Commands that a shell has started without waiting for them, as it knows them. They
are listed from the last one that was started to the first; each has a place, which it
keeps until the shell has told how it ended, or until another command needs a place
after it was waited for.
-/
namespace DiskPrep.Machine.Shell

inductive Exit where
  | status (code : Nat)
  | signal (number : Nat)
  deriving DecidableEq, Repr

/-- Statuses are eight bits. -/
def statusLimit : Nat := 256

/-- The status that stands for a signal is this and the signal's number. -/
def signalStatus : Nat := 128

/-- The status by which other processes know an end. -/
def Exit.code : Exit → Nat
  | status code => code
  | signal number => signalStatus + number

/-- A command that was started without waiting for it. -/
structure Job where
  /-- The number by which the script may name it, from one on. -/
  place : Nat
  process : Nat
  /-- How it ended, if the shell has learnt of it. -/
  exit : Option Exit
  /-- The script has waited for it. -/
  waited : Bool
  deriving DecidableEq, Repr

namespace Job

/-- As far as the shell knows, it goes on. -/
def isRunning (job : Job) : Bool := job.exit.isNone

/-- Its place may be given to another command. -/
def isOver (job : Job) : Bool := !job.isRunning && job.waited

/-- The first place that is free or may be taken, and the jobs that stay when it is. -/
def vacate (jobs : List Job) : Nat × List Job :=
  let isFree (place : Nat) : Bool := jobs.all fun job => job.isOver || job.place != place
  let place := ((List.range' 1 jobs.length).find? isFree).getD (jobs.length + 1)
  (place, jobs.filter fun job => job.place != place)

def start (jobs : List Job) (process : Nat) : List Job :=
  let (place, others) := vacate jobs
  ⟨place, process, none, false⟩ :: others

def words (job : Job) : Text :=
  match job.exit with
  | none => "Running".toList
  | some (.status 0) => "Done".toList
  | some (.status code) => "Done(".toList ++ decimal code ++ [')']
  | some (.signal number) => Signal.description number

inductive Detail where
  /-- How it stands. -/
  | standing
  /-- How it stands, and the number of its process. -/
  | process
  /-- The number of its process alone. -/
  | processOnly
  deriving DecidableEq, Repr

/-- The width of what stands before a command's own text. No command has one. -/
def width : Nat := 33

/-- A job on a line. The last one that was started has a mark, and the one before it
another one. -/
def line (detail : Detail) (jobs : List Job) (job : Job) : Text :=
  if detail = .processOnly then decimal job.process ++ ['\n']
  else
    let mark :=
      if jobs.head? = some job then '+' else if jobs[1]? = some job then '-' else ' '
    let number := if detail = .process then decimal job.process ++ [' '] else []
    let start := '[' :: decimal job.place ++ "] ".toList ++ mark :: ' ' :: number ++ job.words
    start ++ List.replicate (max 1 (width - start.length)) ' ' ++ ['\n']

/-- The jobs that stay when one has been shown: it is forgotten if it has ended. -/
def afterShowing (detail : Detail) (jobs : List Job) (job : Job) : List Job :=
  if detail = .processOnly || job.isRunning then jobs
  else jobs.filter fun other => other.place != job.place

def lines (detail : Detail) : List Job → List Job → Text × List Job
  | jobs, [] => ([], jobs)
  | jobs, job :: rest =>
    let (after, left) := lines detail (afterShowing detail jobs job) rest
    (line detail jobs job ++ after, left)

inductive Fault where
  | noCurrent
  | noPrevious
  | missing (name : Text)
  | ambiguous (name : Text)
  deriving DecidableEq, Repr

def Fault.message : Fault → Text
  | noCurrent => "No current job".toList
  | noPrevious => "No previous job".toList
  | missing name => "No such job: ".toList ++ name
  | ambiguous name => name ++ ": ambiguous".toList

/-- The job that a text names: without one the last that was started, otherwise what
follows a percent sign. Other than by its place a job can only be named by a part of
its text, and that is empty. -/
def named (jobs : List Job) (name? : Option Text) : Except Fault Job :=
  let current : Except Fault Job :=
    match jobs with
    | job :: _ => .ok job
    | [] => .error .noCurrent
  match name? with
  | none => current
  | some ('%' :: name) =>
    let whole := '%' :: name
    let missing : Except Fault Job := .error (.missing whole)
    if [[], ['%'], ['+']].contains name then current
    else if name = ['-'] then
      match jobs with
      | _ :: job :: _ => .ok job
      | _ => .error .noPrevious
    else if name = ['?'] then
      match jobs with
      | [] => missing
      | [job] => .ok job
      | _ => .error (.ambiguous whole)
    else if name.all Numeral.isDigit then
      match jobs.find? fun job => job.place == Numeral.value name with
      | some job => .ok job
      | none => missing
    else missing
  | some name => .error (.missing name)

end Job

end DiskPrep.Machine.Shell
