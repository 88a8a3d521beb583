import DiskPrep.Machine.Shell.Switches

/-!
Commands about signals and about commands that nobody waits for.
-/
namespace DiskPrep.Machine.Shell.Builtin

def killUsage : Text :=
  ("Usage: kill [-s sigspec | -signum | -sigspec] [pid | job]... or\n" ++
    "kill -l [exitstatus]").toList

def sentSignal? (t : Text) : Option Nat :=
  (Signal.ofText? t).filter fun n => n ≠ 0 ∨ t.all Numeral.isDigit

def jobOf (name? : Option Text) : Action Job := do
  match Job.named (← get).jobs name? with
  | .ok job => return job
  | .error fault => Action.fail fault.message

/-- Sends a signal to a process; the answer says whether there is one. -/
def sendTo (run : Runner) (signal : Nat) (process : Int) : Action Bool := do
  let s ← get
  let known (n : Nat) : Bool := process == (n : Int)
  if known s.number ∨ process = 0 then
    Action.sendSignal s.number signal
    return true
  else if known State.firstNumber then
    Action.sendSignal State.firstNumber signal
    return true
  else if known State.systemNumber then
    return true
  else match s.waiting.find? fun w => known w.number with
    | none => return s.ended.any fun e => known e.1
    | some w =>
      let action? := (w.process.traps.find? fun t => t.1 == signal).map Prod.snd
      if signal = 0 then return true
      else if signal ≠ Signal.kill && (w.process.ignored.contains signal || action? == some []) then
        return true
      else
        match action? with
        | some action => Action.interrupt run w action
        | none =>
          if !Signal.harmless.contains signal then
            set { s with
              waiting := s.waiting.filter fun other => other.number != w.number
              ended := (w.number, .signal signal) :: s.ended }
        return true

/-- Sends a signal to processes, or lists the signals. A job stands for a group of
processes of its own, which no job has. -/
def kill (run : Runner) (arguments : List Text) : Action Outcome := do
  if arguments.isEmpty then Action.fail killUsage
  else
    let (list, signal?, targets) ← match arguments with
      | ('-' :: name) :: rest =>
        match sentSignal? name with
        | some n => pure (false, some n, rest)
        | none => do
          let (switches, rest) ← Switches.takeEach "ls:".toList arguments fun switch =>
            if switch.letter = 's' && (sentSignal? switch.word).isNone then
              Action.fail ("invalid signal number or name: ".toList ++ switch.word)
            else return ()
          let named := switches.filter fun switch => switch.letter == 's'
          pure (switches.any fun switch => switch.letter == 'l',
            named.getLast?.bind fun switch => sentSignal? switch.word, rest)
      | arguments => pure (false, none, arguments)
    if list then
      if signal?.isSome then Action.fail killUsage
      else match targets with
        | [] =>
          return .printed ("0\n".toList ++
            (Signal.numbers.drop 1).flatMap fun n => Signal.name n ++ ['\n'])
        | status :: _ =>
          let n ← Action.number status
          let n := if signalStatus < n then n - signalStatus else n
          if 0 < n && n ≤ Signal.lastOwn then return .printed (Signal.name n ++ ['\n'])
          else Action.fail ("invalid signal number or exit status: ".toList ++ status)
    else if targets.isEmpty then Action.fail killUsage
    else
      let results ← targets.mapM fun target => do
        let process : Int ← match target with
          | '%' :: _ => do pure (-((← jobOf (some target)).process : Int))
          | '-' :: group => do pure (-((← Action.number group : Nat) : Int))
          | target => do pure ((← Action.number target : Nat) : Int)
        if ← sendTo run (signal?.getD Signal.terminate) process then return 0
        else
          Action.complain "No such process\n".toList
          return 1
      return .ended (results.foldl max 0)

def trap (arguments : List Text) : Action Outcome := do
  match ← Switches.none arguments with
  | [] =>
    let ordered := (← get).traps.mergeSort fun a b => a.1 ≤ b.1
    return .printed (ordered.flatMap fun (signal, action) =>
      "trap -- ".toList ++ quoted action ++ ' ' :: Signal.name signal ++ ['\n'])
  | first :: rest =>
    let isNumber := !first.isEmpty && first.all Numeral.isDigit && (Signal.ofText? first).isSome
    let (action, names) : Text × List Text :=
      if rest.isEmpty || isNumber then (['-'], first :: rest) else (first, rest)
    let refused ← names.foldlM (fun (refused : Bool) name => do
      if refused then return true
      else match Signal.ofText? name with
        | none =>
          modify fun s => s.send 2 ("trap: ".toList ++ name ++ ": bad trap\n".toList)
          return true
        | some signal =>
          modify fun s =>
            let others := s.traps.filter fun t => t.1 != signal
            { s with traps := if action = ['-'] then others else (signal, action) :: others }
          return false) false
    return .ended (if refused then 1 else 0)

/-- How waiting came to its end: a status, or a signal that came before. -/
inductive Waited where
  | status (code : Nat)
  | signal (number : Nat)
  deriving DecidableEq, Repr

def waitForAll (run : Runner) : Action Waited :=
  repeatAction (fun (_ : Unit) => do
    modify fun s =>
      let (finished, others) := s.jobs.span fun job => !job.isRunning
      { s with jobs := finished.map (fun job => { job with waited := true }) ++ others }
    let s ← get
    let running := s.jobs.filter Job.isRunning
    if running.isEmpty then return .inr (.status 0)
    else match s.pending.getLast? with
      | some signal => return .inr (.signal signal)
      | none =>
        if running.any fun job => s.ended.any fun e => e.1 == job.process then Action.learn
        else Action.passTime run Action.times
        return .inl ()) repetitionLimit ()

def waitFor (run : Runner) (job : Job) : Action Waited :=
  repeatAction (fun (_ : Unit) => do
    let s ← get
    let known := (s.jobs.find? fun other => other.place == job.place).getD job
    match known.exit with
    | some exit =>
      set { s with
        jobs := s.jobs.map fun (other : Job) =>
          if other.place = job.place then { other with waited := true } else other }
      return .inr (.status exit.code)
    | none =>
      match s.pending.getLast? with
      | some signal => return .inr (.signal signal)
      | none =>
        match s.ended.find? fun e => e.1 == job.process with
        | some (_, exit) =>
          Action.learn
          let _ ← Action.statusOf exit
        | none => Action.passTime run Action.times
        return .inl ()) repetitionLimit ()

/-- Waits for one after the other of the processes and jobs that are named. The status is
that of the last one that there is. -/
def waitForEach (run : Runner) : Nat → List Text → Action Waited
  | status, [] => return .status status
  | status, target :: targets => do
    let job? ← match target with
      | '%' :: _ => some <$> jobOf (some target)
      | target => do
        let number ← Action.number target
        pure ((← get).jobs.find? fun job => job.process == number)
    match job? with
    | none => waitForEach run status targets
    | some job =>
      match ← waitFor run job with
      | .status status => waitForEach run status targets
      | signal => return signal

def wait (run : Runner) (arguments : List Text) : Action Outcome := do
  let waited ← match ← Switches.none arguments with
    | [] => waitForAll run
    | targets => waitForEach run 127 targets
  match waited with
  | .status code => return .ended code
  | .signal number => return .ended (signalStatus + number)

/-- Lists started commands. Those that have ended are listed once. -/
def jobs (arguments : List Text) : Action Outcome := do
  let (switches, names) ← Switches.take "lp".toList arguments
  let detail : Job.Detail := match switches.getLast?.map Switch.letter with
    | some 'l' => .process
    | some _ => .processOnly
    | none => .standing
  if names.isEmpty then
    let s ← get
    let (lines, left) := Job.lines detail s.jobs s.jobs
    set { s with jobs := left }
    return .printed lines
  else
    let lines ← names.foldlM (fun (lines : Text) name => do
      match ← Action.attempt (jobOf (some name)) with
      | .ok job =>
        let s ← get
        set { s with jobs := Job.afterShowing detail s.jobs job }
        return lines ++ Job.line detail s.jobs job
      | .error interrupt =>
        modify fun s => s.send 1 lines
        throw interrupt) []
    return .printed lines

/-- Brings a started command to the front, which no script can. -/
def foreground (arguments : List Text) : Action Outcome := do
  let name? := (← Switches.none arguments).head?
  let _ ← jobOf name?
  Action.fail ("job ".toList ++ name?.getD "(null)".toList ++
    " not created under job control".toList)

end DiskPrep.Machine.Shell.Builtin
