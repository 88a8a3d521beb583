import DiskPrep.Machine.Shell.Grammar
import DiskPrep.Machine.Shell.State

/-!
Processes of a running script: texts that are run as commands, signals, the end of a
process, and processes that begin as copies of another one. One process runs at a
time. A command that nobody waits for is run when its process waits for something
else, or ends, or goes round in a loop for long. Time is counted in rounds of loops: a
process that is run meanwhile is given some of it, and if it takes longer, it is as if
it had not begun.
-/
namespace DiskPrep.Machine.Shell

namespace Action

def consumed (before after : Text) : Text := before.take (before.length - after.length)

/-- What has been read of a text, and the rest of the line in which that stops. -/
def wholeLines (read left : Text) : Text :=
  if read.isEmpty || read.getLast? = some '\n' then read
  else read ++ left.takeWhile (· != '\n') ++ (left.dropWhile (· != '\n')).take 1

structure Script where
  text : Text
  /-- It is shown as it is read, if the option for that is on. -/
  echoed : Bool
  /-- How a shell asks for commands of its own script, with the text that a variable
  holds; no other script is asked for. -/
  prompt? : Option (Text → Action Unit)
  /-- What has been added to it after it was read. -/
  added : Action Text

structure Reading where
  source : Source
  /-- A command has been run. -/
  ran : Bool
  /-- How often its end has been passed over. -/
  ends : Nat

def endLimit : Nat := 50

/-- Shows the lines of a command that has been read, and asks for the next one after each
of them, unless the command ends with it. -/
def showLines (echo : Text → Action Unit) (ask : Action Unit) (goesOn : Bool) :
    List Text → Action Unit
  | [] => return ()
  | [last] => if last.isEmpty then return () else echo last
  | line :: rest => do
    echo (line ++ ['\n'])
    if goesOn || rest != [[]] then ask
    showLines echo ask goesOn rest

/-- What fails in a shell that asks for its commands does not end it: nothing of what
was being done goes on. -/
def recover : Action Unit := do
  modify fun s => { s with
    loops := 0
    calls := 0
    commandName := none }
  closeScopes 0

/-- Runs the commands of a script. The status is zero where there are none; what cannot
be read ends the process at the line where it stands. -/
def runScript (run : Runner) (tested : Bool) (script : Script) : Action Flow := do
  let outerLine := (← get).readLine
  let flow ← repeatAction (fun (r : Reading) => do
    let s ← get
    let asked? := script.prompt?.filter fun _ => s.isOn 'i'
    let guarded (action : Action (Reading ⊕ Flow)) : Action (Reading ⊕ Flow) := do
      match ← attempt action with
      | .error .failed =>
        let s ← get
        if script.prompt?.isSome && s.isOn 'i' && s.depth = 0 then
          recover
          return .inl { r with source := { r.source with rest := [], pushedBack := none }, ran := true }
        else throw .failed
      | result => resume result
    if let some prompt := asked? then prompt "PS1".toList
    let echo (goesOn : Bool) (read : Text) : Action Unit :=
      showLines (fun line => if script.echoed && s.isOn 'v' then modify (·.send 2 line) else return ())
        (asked?.elim (return ()) fun prompt => prompt "PS2".toList) goesOn (read.splitOn '\n')
    match Source.nextCommand? { r.source with
        aliases := s.aliases
        documents := s.documents
        nextDocument := s.nextDocument } with
    | .error e => guarded do
      echo e.left.isEmpty (wholeLines (consumed r.source.rest e.left) e.left)
      modify fun s => { s with line := e.line, readLine := e.line }
      fail ("Syntax error: ".toList ++ e.reason)
    | .ok (command, after) =>
      echo false (consumed r.source.rest after.rest)
      modify fun s => { s with
        documents := after.documents
        nextDocument := after.nextDocument
        readLine := after.line }
      match command with
      | none =>
        let added ← if script.text.getLast? = some '\n' then script.added else pure []
        if !added.isEmpty then
          return .inl { r with source := { after with rest := added, pushedBack := none } }
        else if script.prompt?.isSome && s.isOn 'I' && r.ends < endLimit then
          modify fun s => s.send 2 "\nUse \"exit\" to leave shell.\n".toList
          return .inl { r with source := after, ends := r.ends + 1 }
        else
          if asked?.isSome && !s.isOn 'I' then modify fun s => s.send 2 ['\n']
          if !r.ran then setStatus 0
          return .inr .next
      | some .nothing => return .inl ⟨after, r.ran, 0⟩
      | some command => guarded do
        match ← run command tested with
        | .next => return .inl ⟨after, true, 0⟩
        | flow => return .inr flow) repetitionLimit ⟨Source.start script.text 1 0 [], false, 0⟩
  modify fun s => { s with readLine := outerLine }
  return flow

def runText (run : Runner) (tested : Bool) (text : Text) : Action Flow :=
  runScript run tested ⟨text, false, none, return []⟩

def drain (n : Nat) : Action Text := do
  let s ← get
  match s.streams[n]? with
  | some (.waiting text) =>
    set (s.putStream n (.waiting []))
    return text
  | some (.file place position access) =>
    let bytes := s.tree.bytesAt place
    set (s.putStream n (.file place (max position bytes.length) access))
    return Text.ofBytes (bytes.drop position)
  | _ => return []

/-- The commands in a stream. Zeros are no part of them. -/
def scriptIn (n : Nat) : Action Script := do
  let read : Action Text := return (← drain n).filter (· != '\x00')
  return ⟨← read, true, none, read⟩

/-- The process gets a signal: it is ignored, its action will be run, or it ends the
process. -/
def receiveSignal (signal : Nat) : Action Unit := do
  let s ← get
  if signal = Signal.kill then throw (.killed signal)
  else if s.ignored.contains signal then return ()
  else match s.traps.find? fun t => t.1 == signal with
  | some (_, []) => return ()
  | some _ =>
    if !s.pending.contains signal then set { s with pending := s.pending ++ [signal] }
  | none =>
    let spared := s.depth == 0 && s.isOn 'i' && Signal.spared.contains signal
    if signal = 0 ∨ spared ∨ Signal.harmless.contains signal then return ()
    else throw (.killed signal)

def receiveSent : Action Unit := do
  let s ← get
  if s.depth = 0 then
    let (own, others) := s.sent.partition fun (target, _) => target == s.number
    set { s with sent := others }
    own.forM fun (_, signal) => receiveSignal signal

def sendSignal (target signal : Nat) : Action Unit := do
  modify fun s => { s with sent := s.sent ++ [(target, signal)] }
  receiveSent

/-- Runs the actions of signals that have come, unless a part of the script is being
left. The status is afterwards what it was before. -/
def runPending (run : Runner) : Action Flow := do
  let s ← get
  if s.pending.isEmpty then return .next
  else
    let status := s.savedStatus.getD s.status
    set { s with savedStatus := some status }
    let flow ← repeatAction (fun (_ : Unit) => do
      let s ← get
      match s.pending.mergeSort with
      | [] => return .inr .next
      | signal :: pending =>
        set { s with pending := pending }
        match s.traps.find? fun t => t.1 == signal with
        | none => return .inl ()
        | some (_, action) =>
          let flow ← runText run false action
          if flow ≠ .back true then setStatus status
          if flow = .next then return .inl () else return .inr flow) repetitionLimit ()
    modify fun after => { after with savedStatus := s.savedStatus }
    return flow

def endProcess (run : Runner) (body : Action Flow) : Action Exit := do
  let ended : Action Exit := return .status ((← get).status % statusLimit)
  match ← attempt body with
  | .error (.killed signal) => return .signal signal
  | .error .late => throw .late
  | _ =>
    let s ← get
    match s.traps.find? fun t => t.1 == 0 with
    | none => ended
    | some (_, action) =>
      set { s with
        traps := s.traps.filter fun t => t.1 != 0
        savedStatus := some s.status }
      match ← attempt (runText run false action) with
      | .error (.killed signal) => return .signal signal
      | .error .late => throw .late
      | .error _ => ended
      | .ok _ =>
        setStatus s.status
        ended

/-- Times that processes are given, the later ones if the earlier were not enough. -/
def times : List Nat := [512, 8192, 131072, 4194304]

/-- The time in which another process may end while one is started. -/
def briefTime : Nat := 512

/-- The time after which a script will never end. -/
def longTime : Nat := 10000000

/-- Runs a waiting process for some time; the answer says whether it has ended. If it
has not, it is idle from then on, or else nothing has happened in it. -/
def advance (run : Runner) (time : Nat) (idles : Bool) (w : Waiting) : Action Bool := do
  let s ← get
  if w.idle || s.waiting.all (fun other => other.number != w.number) then return false
  else
    set { s with
      toProcess := w.process
      waiting := s.waiting.filter fun other => other.number != w.number
      lastRound := min s.lastRound (s.rounds + time) }
    match ← attempt (endProcess run (run w.command false)) with
    | .ok exit =>
      modify fun after => { after with
        toProcess := s.toProcess
        lastRound := s.lastRound
        ended := (w.number, exit) :: after.ended }
      receiveSent
      return true
    | .error _ =>
      modify fun after =>
        if idles then { after with
          toProcess := s.toProcess
          lastRound := s.lastRound
          waiting := { w with process := after.toProcess, idle := true } :: after.waiting }
        else { s with rounds := after.rounds }
      return false

def advanceAll (run : Runner) (time : Nat) (idles : Bool) : Action Bool := do
  return (← (← get).waiting.mapM (advance run time idles)).any id

/-- Runs waiting processes, those that take longer after the others, until no time is
left. -/
def runWaiting (run : Runner) (chosen : State → Waiting → Bool) : List Nat → Action Unit
  | [] => return ()
  | time :: times => do
    repeatAction (fun (_ : Unit) => do
      let s ← get
      let ended ← (s.waiting.filter (chosen s)).mapM (advance run time false)
      return if ended.any id then .inl () else .inr ()) repetitionLimit ()
    runWaiting run chosen times

def runOwn (run : Runner) (times : List Nat) : Action Unit :=
  runWaiting run (fun s w => s.jobs.any fun job => job.process == w.number) times

/-- Runs all commands that nobody has waited for, to their ends. -/
def runLeft (run : Runner) : Action Unit := runWaiting run (fun _ _ => true) times

def passTime (run : Runner) : List Nat → Action Unit
  | [] => throw .late
  | time :: times => do
    if ← advanceAll run time false then return () else passTime run times

def learn : Action Unit := do
  let s ← get
  let exitOf (job : Job) : Option Exit :=
    (s.ended.find? fun e => e.1 == job.process).map Prod.snd
  set { s with
    jobs := s.jobs.map fun (job : Job) => if job.isRunning then { job with exit := exitOf job } else job
    ended := s.ended.filter fun e => s.jobs.all fun job => job.process != e.1 }
  if s.jobs.any fun job => job.isRunning && (exitOf job).isSome then receiveSignal Signal.child

/-- The rounds after which a process that goes round in a loop may wait for another one,
and after which that one will not end. -/
def firstLook : Nat := 1024
def lastLook : Nat := 262144

/-- A round of a loop begins. After ever more rounds the other processes are run, since
the loop may wait for something that they do. -/
def round (run : Runner) : Action Unit := do
  let s ← get
  if s.lastRound ≤ s.rounds then throw .late
  set { s with rounds := s.rounds + 1 }
  if !s.waiting.isEmpty && firstLook ≤ s.rounds && s.rounds.log2 != (s.rounds - 1).log2 then
    let _ ← advanceAll run (s.rounds / 4) (lastLook ≤ s.rounds)
    learn

/-- A process that is idle carries out the action for a signal. If that does not end it,
it begins its command again. -/
def interrupt (run : Runner) (w : Waiting) (action : Text) : Action Unit := do
  let s ← get
  set { s with
    toProcess := w.process
    waiting := s.waiting.filter fun other => other.number != w.number }
  let body : Action Flow := do
    match ← runText run false action with
    | .next => throw .late
    | flow => return flow
  match ← attempt (endProcess run body) with
  | .ok exit =>
    modify fun after => { after with
      toProcess := s.toProcess
      ended := (w.number, exit) :: after.ended }
    receiveSent
  | .error _ =>
    modify fun after => { after with
      toProcess := s.toProcess
      waiting := { w with process := after.toProcess, idle := false } :: after.waiting }

/-- A copy of the process: it keeps the signals that are ignored, but no actions. -/
def copied (p : Process) : Process :=
  { p with
    depth := p.depth + 1
    traps := p.traps.filter fun t => t.2.isEmpty
    pending := []
    jobs := [] }

/-- Runs a body in a copy of the process, and waits for it. What it has started itself is
given some times to end. Signals that the process gets meanwhile are left on their
way. -/
def inCopy (run : Runner) (times : List Nat) (body : Action Flow) : Action Exit := do
  runOwn run [briefTime]
  let outer ← get
  set { outer with toProcess := copied outer.toProcess }
  let exit ← endProcess run body
  runOwn run times
  modify fun inner => { inner with
    toProcess := outer.toProcess
    ended := inner.ended.filter fun e => inner.jobs.all fun job => job.process != e.1
    streams :=
      if inner.waiting.isEmpty then inner.streams.take outer.streams.length else inner.streams }
  return exit

/-- Starts something that is waited for, for which a place among the jobs is needed. When
it has ended, the process gets the signals that were sent meanwhile. -/
def waitedFor {α : Type} (action : Action α) : Action α := do
  modify fun s => { s with jobs := (Job.vacate s.jobs).2 }
  let a ← action
  learn
  receiveSignal Signal.child
  receiveSent
  return a

def subprocess (run : Runner) (body : Action Flow) : Action Exit :=
  waitedFor (inCopy run [briefTime] body)

/-- The status of a process that was waited for. A signal that ended it is told of,
except for the two that users send themselves. -/
def statusOf (exit : Exit) : Action Nat := do
  match exit with
  | .signal n =>
    if n ≠ Signal.interrupt ∧ n ≠ Signal.brokenPipe then
      modify fun s => s.send 2 (Signal.description n ++ ['\n'])
  | .status _ => pure ()
  return exit.code

/-- Starts a command without waiting for it. It reads nothing. -/
def startJob (command : Command) : Action Unit := do
  let (input, s) := (← get).openStream .nowhere
  let process := copied s.toProcess
  let process := { process with
    descriptors := (0, input) :: process.descriptors.filter fun d => d.1 != 0
    ignored := Signal.interrupt :: Signal.quit :: process.ignored }
  set { s with
    nextNumber := s.nextNumber + 1
    waiting := s.waiting ++ [(⟨s.nextNumber, command, process, false⟩ : Waiting)]
    jobs := Job.start s.jobs s.nextNumber
    lastJob := some s.nextNumber }

/-- Runs a body for some time in a copy of the process with a new stream in the place of
the output, and gives what was written, and how it ended if it did. -/
def collect (run : Runner) (time : Nat) (body : Action Flow) : Action (Option Exit × Text) := do
  let outer ← get
  let (n, s) := outer.openStream (.collected [])
  set { s with lastRound := min s.lastRound (s.rounds + time) }
  let result ← attempt do
    inCopy run (times.take 3) do
      modify fun s => s.lead 1 n
      body
  modify fun s => { s with lastRound := outer.lastRound }
  let exit? ← match result with
    | .ok exit => pure (some exit)
    | .error interrupt =>
      let s ← get
      if s.lastRound ≤ s.rounds then throw interrupt
      set { s with toProcess := outer.toProcess }
      pure none
  let s ← get
  if s.waiting.isEmpty then set { s with streams := s.streams.take n }
  match s.streams[n]? with
  | some (.collected written) => return (exit?, written.reverse)
  | _ => return (exit?, [])

end Action

end DiskPrep.Machine.Shell
