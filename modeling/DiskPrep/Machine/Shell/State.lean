import DiskPrep.Errno
import DiskPrep.Machine.FileTree
import DiskPrep.Machine.Shell.Job
import DiskPrep.Machine.Shell.Source

/-!
The state of a running script: what a process of its own would have, which a
subshell gets a copy of, and what all processes share. An action changes the state
and may end the process; what it has changed by then stays changed.
-/
namespace DiskPrep.Machine.Shell

/-- A variable. Without a value it is only marked. -/
structure Binding where
  name : Text
  value : Option Text
  exported : Bool
  constant : Bool
  deriving DecidableEq, Repr

/-- The part of a table in which a name stands. A table is listed part by part. -/
def tablePart (parts : Nat) (name : Text) : Nat :=
  name.foldl (fun sum c => sum + c.toNat) (16 * (name.headD '\x00').toNat) % parts

/-- What is put back when a command ends. -/
inductive Former where
  | binding (name : Text) (before : Option Binding)
  /-- The letters of the options that were on. -/
  | options (letters : Text)
  deriving DecidableEq, Repr

inductive Stream where
  /-- Nothing is read, and what is written vanishes. -/
  | nowhere
  /-- What is written is kept, the last character first. -/
  | collected (written : Text)
  /-- What is still to be read. -/
  | waiting (text : Text)
  | file (place : Location) (position : Nat) (access : Access)
  deriving DecidableEq, Repr

structure Process where
  /-- The number of the process in which the shell was started. -/
  number : Nat
  /-- Processes between that one and this. -/
  depth : Nat
  /-- The path under which the script was started. -/
  scriptName : Text
  /-- The command that is part of the language and is being run. -/
  commandName : Option Text
  /-- The line of the command that is being run. -/
  line : Nat
  /-- The line that has been read. -/
  readLine : Nat
  bindings : List Binding
  arguments : List Text
  /-- Where the reading of options goes on: an argument, and a place in it. -/
  optionIndex : Nat
  optionPlace : Option Nat
  functions : List (Text × Command)
  /-- Names of programs that have been looked for, and where they were found. -/
  found : List (Text × Text)
  aliases : List (Text × Text)
  /-- Letters of the options that are on. -/
  options : Text
  /-- How the last command ended. -/
  status : Nat
  /-- How the last command ended whose output was taken. -/
  outputStatus : Nat
  /-- The status to which a script returns from an action on a signal. -/
  savedStatus : Option Nat
  /-- Descriptors with the streams that they lead to. -/
  descriptors : List (Nat × Nat)
  /-- Actions on signals, of which zero is the end of the script. -/
  traps : List (Nat × Text)
  /-- Signals that were ignored when the shell was started, and always are. -/
  ignored : List Nat
  /-- Signals that have come and whose actions are still to be run. -/
  pending : List Nat
  /-- Loops around the command that is being run. -/
  loops : Nat
  /-- Functions that are being run. -/
  calls : Nat
  /-- What the commands that are being run put back, the innermost first. -/
  scopes : List (List Former)
  directory : Location
  /-- It says where it is with two slashes at the start of the path. -/
  doubled : Bool
  mask : Nat
  /-- Commands that were started without waiting for them. -/
  jobs : List Job
  /-- The number of the process that was started last in that way. -/
  lastJob : Option Nat

structure Waiting where
  number : Nat
  command : Command
  process : Process
  /-- It does nothing any more but go round in a loop. -/
  idle : Bool

/-- A running script: a process, and what it shares with others. -/
structure State extends Process where
  streams : List Stream
  tree : FileTree
  /-- Texts that stand for commands, by number. -/
  documents : List (Nat × Word)
  nextDocument : Nat
  /-- The number that the next process gets which is known by one. -/
  nextNumber : Nat
  waiting : List Waiting
  /-- How processes ended whose shells have not learnt of it, by number. -/
  ended : List (Nat × Exit)
  /-- Rounds that loops have gone, in whatever process. -/
  rounds : Nat
  /-- The round at which a process that goes on is interrupted. -/
  lastRound : Nat
  /-- Signals on their way, each after the number of the process that gets it. -/
  sent : List (Nat × Nat)

inductive Interrupt where
  /-- A command failed in a way that ends a script. -/
  | failed
  | exited
  | killed (signal : Nat)
  /-- It has taken longer than it was given time for. -/
  | late
  deriving DecidableEq, Repr

inductive Flow where
  /-- The next command follows. -/
  | next
  /-- So many loops are left. -/
  | leave (loops : Nat)
  /-- The outermost of so many loops goes on. -/
  | again (loops : Nat)
  /-- The function, or the file, is left, with a status of its own or without. -/
  | back (ownStatus : Bool)
  deriving DecidableEq, Repr

abbrev Action := ExceptT Interrupt (StateM State)

/-- Carries a command out, which may be one whose failure is looked at. -/
abbrev Runner := Command → Bool → Action Flow

@[specialize]
def repeatAction {α β : Type} (step : α → Action (α ⊕ β)) : Nat → α → Action β
  | 0, _ => throw .late
  | limit + 1, a => do
    match ← step a with
    | .inl a => repeatAction step limit a
    | .inr b => return b

def repetitionLimit : Nat := 10000000

namespace State

def firstNumber : Nat := 4242

/-- The number of the process that the system starts with, which no signal ends. -/
def systemNumber : Nat := 1

def stream? (s : State) (descriptor : Nat) : Option (Nat × Stream) := do
  let (_, n) ← s.descriptors.find? fun d => d.1 == descriptor
  return (n, ← s.streams[n]?)

def putStream (s : State) (n : Nat) (stream : Stream) : State :=
  { s with streams := s.streams.set n stream }

def lead (s : State) (descriptor n : Nat) : State :=
  { s with descriptors := (descriptor, n) :: s.descriptors.filter fun d => d.1 != descriptor }

def close (s : State) (descriptor : Nat) : State :=
  { s with descriptors := s.descriptors.filter fun d => d.1 != descriptor }

/-- Writes to a descriptor; none if it cannot be written to. -/
def send? (s : State) (descriptor : Nat) (text : Text) : Option State :=
  match s.stream? descriptor with
  | some (_, .nowhere) => some s
  | some (n, .collected written) => some (s.putStream n (.collected (text.reverse ++ written)))
  | some (n, .file place position access) =>
    match access with
    | .read => none
    | .append =>
      let tree := s.tree.writeAt place (s.tree.bytesAt place).length (Text.toBytes text)
      some { s with tree := tree }
    | access =>
      let tree := s.tree.writeAt place position (Text.toBytes text)
      some { s.putStream n (.file place (position + text.length) access) with tree := tree }
  | _ => none

/-- Writes to a descriptor, or nowhere if it cannot be written to. -/
def send (s : State) (descriptor : Nat) (text : Text) : State := (s.send? descriptor text).getD s

/-- One character of the input, none at its end; no answer if it cannot be read. -/
def receive? (s : State) (descriptor : Nat) : Option (Option Char × State) :=
  match s.stream? descriptor with
  | some (_, .nowhere) => some (none, s)
  | some (n, .waiting text) =>
    match text with
    | [] => some (none, s)
    | c :: rest => some (some c, s.putStream n (.waiting rest))
  | some (n, .file place position access) =>
    match access, s.tree.find? place with
    | .read, some (.file content _) | .update, some (.file content _) =>
      match content[position]? with
      | some b => some (some (Char.ofNat b.toNat), s.putStream n (.file place (position + 1) access))
      | none => some (none, s)
    | _, _ => none
  | _ => none

def openStream (s : State) (stream : Stream) : Nat × State :=
  (s.streams.length, { s with streams := s.streams ++ [stream] })

def isOn (s : State) (letter : Char) : Bool := s.options.contains letter

def binding? (s : State) (name : Text) : Option Binding := s.bindings.find? fun b => b.name == name

def valueOf? (s : State) (name : Text) : Option Text := (s.binding? name).bind (·.value)

def bind (s : State) (b : Binding) : State :=
  { s with bindings := b :: s.bindings.filter fun old => old.name != b.name }

def unbind (s : State) (name : Text) : State :=
  { s with bindings := s.bindings.filter fun old => old.name != name }

/-- The characters at which expanded text is split. -/
def separators (s : State) : Text := (s.valueOf? "IFS".toList).getD [' ', '\t', '\n']

end State

namespace Action

/-- The complaint about something: the script, the line, the command and what. -/
def complaint (s : State) (what : Text) : Text :=
  s.scriptName ++ ": ".toList ++ decimal s.line ++ ": ".toList ++
    (match s.commandName with
      | some name => name ++ ": ".toList
      | none => []) ++ what ++ ['\n']

def complain (what : Text) : Action Unit := modify fun s => s.send 2 (complaint s what)

def setStatus (status : Nat) : Action Unit := modify fun s => { s with status := status }

/-- Ends the process, or the command if it is one that may fail, with a complaint. -/
def fail {α : Type} (what : Text) : Action α := do
  complain what
  setStatus 2
  throw .failed

/-- The same with a status of its own; the process ends in any case. -/
def exitWith {α : Type} (what : Text) (status : Nat) : Action α := do
  complain what
  setStatus status
  throw .exited

def failNumber {α : Type} (t : Text) : Action α := fail ("Illegal number: ".toList ++ t)

def number (t : Text) : Action Nat :=
  match Integer.natOfText? t with
  | some n => return n
  | none => failNumber t

/-- With the path where programs are looked for, it is forgotten where they were found. -/
def withoutFound (s : State) (name : Text) : State :=
  if name = "PATH".toList then { s with found := [] } else s

/-- The name in a text: what stands before an equals sign. -/
def nameIn (t : Text) : Text := t.takeWhile (· != '=')

/-- Gives a variable its value. The one that says where the reading of options goes
on must hold a number. -/
def assign (named value : Text) : Action Unit := do
  let name := nameIn named
  if name = "OPTIND".toList then
    let n ← number value
    modify fun s => { s with optionIndex := max n 1, optionPlace := none }
  modify fun s => withoutFound s name
  let s ← get
  match s.binding? name with
  | some b =>
    if b.constant then fail (name ++ ": is read only".toList)
    else set (s.bind { b with value := some value, exported := b.exported || s.isOn 'a' })
  | none =>
    if isName name then set (s.bind ⟨name, some value, s.isOn 'a', false⟩)
    else fail (name ++ ": bad variable name".toList)

def assignExported (name value : Text) : Action Unit := do
  assign name value
  modify fun s => match s.binding? name with
    | some b => s.bind { b with exported := true }
    | none => s

/-- Takes a variable away. The one that says where the reading of options goes on has
to stay. -/
def unassign (named : Text) : Action Unit := do
  let name := nameIn named
  let s ← get
  match s.binding? name with
  | some b =>
    if b.constant then fail (name ++ ": is read only".toList)
    else if name = "OPTIND".toList then failNumber []
    else set ((withoutFound s name).unbind name)
  | none => if isName name then return () else fail (name ++ ": bad variable name".toList)

def remember (former : Former) : Action Unit :=
  modify fun s => { s with scopes := match s.scopes with
    | scope :: scopes => (former :: scope) :: scopes
    | [] => [] }

def openScope : Action Unit := modify fun s => { s with scopes := [] :: s.scopes }

def putBack (s : State) : Former → State
  | .binding name before =>
    let s := withoutFound s name
    match before with
    | some b => s.bind b
    | none => s.unbind name
  | .options letters => { s with options := letters }

/-- A name that cannot be taken away because it is none. -/
def badName? : Former → Option Text
  | .binding name none => if isName name then none else some name
  | _ => none

/-- Ends the innermost scopes until so many are left: what was changed in them is again
what it was. -/
def closeScopes (left : Nat) : Action Unit := do
  let s ← get
  let ended := s.scopes.take (s.scopes.length - left)
  set (ended.flatten.foldl putBack { s with scopes := s.scopes.drop ended.length })
  match ended.flatten.findSome? badName? with
  | some name => fail (name ++ ": bad variable name".toList)
  | none => return ()

/-- The result of an action, whatever way it ends. -/
def attempt {α : Type} (action : Action α) : Action (Except Interrupt α) :=
  tryCatch (Except.ok <$> action) fun interrupt => return .error interrupt

def resume {α : Type} (result : Except Interrupt α) : Action α :=
  match result with
  | .ok a => return a
  | .error interrupt => throw interrupt

end Action

end DiskPrep.Machine.Shell
