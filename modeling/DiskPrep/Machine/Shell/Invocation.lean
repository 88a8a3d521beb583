import DiskPrep.Machine.Shell.Builtin.Control
import DiskPrep.Machine.Shell.Builtin.Names
import DiskPrep.Machine.Shell.Builtin.Surroundings
import DiskPrep.Machine.Shell.Format
import DiskPrep.Machine.Shell.Lookup

/-!
A process becomes another program: a shell that reads a script, or one of the small
programs that every machine has. It keeps its descriptors, its directory and the
exported variables.
-/
namespace DiskPrep.Machine.Shell

namespace State

/-- The variables that a shell has beside those it is given. -/
def ownBindings (s : State) : List Binding :=
  let directory := Builtin.currentDirectory s
  [⟨"IFS".toList, some [' ', '\t', '\n'], false, false⟩,
    ⟨"OPTIND".toList, some ['1'], false, false⟩,
    ⟨"PPID".toList, some "4241".toList, false, false⟩,
    ⟨"PS1".toList, some "# ".toList, false, false⟩,
    ⟨"PS2".toList, some "> ".toList, false, false⟩,
    ⟨"PS4".toList, some "+ ".toList, false, false⟩,
    ⟨"PWD".toList, some directory, true, false⟩]

def started (s : State) (name : Text) : State :=
  let given := s.bindings.filter fun b => b.exported && b.value.isSome
  let given := given.map fun b => { b with constant := false }
  let isCopy := s.depth != 0
  { s with
    number := if isCopy then s.nextNumber else s.number
    nextNumber := if isCopy then s.nextNumber + 1 else s.nextNumber
    depth := 0
    scriptName := name
    commandName := none
    line := 0
    readLine := 1
    bindings := s.ownBindings.foldl (fun bindings own =>
      own :: bindings.filter fun b => b.name != own.name) given
    arguments := []
    optionIndex := 1
    optionPlace := none
    functions := []
    found := []
    aliases := []
    options := []
    status := 0
    outputStatus := 0
    savedStatus := none
    traps := []
    ignored := (s.traps.filter fun t => t.2.isEmpty).map Prod.fst ++ s.ignored
    pending := []
    loops := 0
    calls := 0
    scopes := []
    jobs := []
    lastJob := none }

end State

namespace Invocation

/-- Takes the letters of a shell's options; the answer says whether the script is an
argument itself. -/
def takeLetters (on : Bool) (rest : List Text) : Text → Action (Bool × List Text)
  | [] => return (false, rest)
  | 'c' :: letters => do
    let (_, rest) ← takeLetters on rest letters
    return (true, rest)
  | 'l' :: letters => takeLetters on rest letters
  | 'o' :: letters => do
    match rest with
    | [] => takeLetters on [] letters
    | name :: rest =>
      Builtin.turnName on name
      takeLetters on rest letters
  | letter :: letters => do
    Builtin.turnLetter on letter
    takeLetters on rest letters

def takeOptions : Nat → List Text → Action (Bool × List Text)
  | 0, rest => return (false, rest)
  | limit + 1, arguments => do
    match arguments with
    | ['-'] :: rest => return (false, rest)
    | ['-', '-'] :: rest => return (false, rest)
    | (sign :: letters) :: rest =>
      if sign = '-' ∨ sign = '+' then
        let (inArgument, rest) ← takeLetters (sign == '-') rest letters
        let (more, rest) ← takeOptions limit rest
        return (inArgument || more, rest)
      else return (false, arguments)
    | _ => return (false, arguments)

def setNameAndArguments (words : List Text) : Action Unit :=
  modify fun s => { s with
    scriptName := words.headD s.scriptName
    arguments := words.drop 1 }

/-- There is no terminal, over which a shell could control its commands. -/
def withoutTerminal (arguments : List Text) : Action Unit := do
  let s ← get
  let asks := s.isOn 'i' && !(arguments.takeWhile fun t => t.head? == some '+').any (·.contains 'm')
  if asks || s.isOn 'm' then
    Builtin.turn false 'm'
    Action.complain "can't access tty; job control turned off".toList

def runMain (run : Runner) (script : Action.Script) : Action Flow :=
  Action.runScript run false { script with
    prompt? := some fun name => do
      let shown ← Expansion.shownText run name
      modify fun s => s.send 2 shown }

/-- Runs a shell with the given arguments: options, and a script with its own. -/
def shell (run : Runner) (name : Text) (arguments : List Text) : Action Flow := do
  modify fun s => s.started name
  let (inArgument, rest) ← takeOptions (arguments.length + 1) arguments
  if inArgument then
    match rest with
    | [] => Action.fail "-c requires an argument".toList
    | text :: rest =>
      if !rest.isEmpty then setNameAndArguments rest
      withoutTerminal arguments
      Action.runText run false text
  else if rest.isEmpty || (← get).isOn 's' then
    Builtin.turn true 's'
    modify fun s => { s with arguments := rest }
    withoutTerminal arguments
    let script ← match (← get).stream? 0 with
      | some (n, _) => Action.scriptIn n
      | none => pure ⟨[], true, none, return []⟩
    runMain run script
  else
    let n ← Builtin.openText (rest.headD [])
    setNameAndArguments rest
    withoutTerminal arguments
    runMain run (← Action.scriptIn n)

/-- Words on a line, unless options say that the line does not end, or that escapes in
it are read. -/
def echoOutput : Bool → Bool → List Text → Text
  | newline, escapes, words@(('-' :: c :: letters) :: rest) =>
    let all := c :: letters
    if all.all fun c => ['n', 'e', 'E'].contains c then
      let escapes := all.foldl (fun escapes c =>
        if c = 'e' then true else if c = 'E' then false else escapes) escapes
      echoOutput (newline && !all.contains 'n') escapes rest
    else finish newline escapes words
  | newline, escapes, words => finish newline escapes words
where
  /-- The words, after the options. -/
  finish (newline escapes : Bool) (words : List Text) : Text :=
    let text := Text.spaced words
    let (text, stopped) := if escapes then unescaped text else (text, false)
    if newline && !stopped then text ++ ['\n'] else text

/-- Writes what files hold, or the input; the answer is the status. -/
def cat (name : Text) (paths : List Text) : Action Nat := do
  let paths := if paths.isEmpty then [['-']] else paths
  let results ← paths.mapM fun path => do
    let s : State ← get
    let copy (n : Nat) : Action Nat := do
      let text ← Action.drain n
      modify fun s => s.send 1 text
      return 0
    if path = ['-'] then
      match s.stream? 0 with
      | some (n, _) => copy n
      | none => return 0
    else
      let refuse (cause : SystemError) : Action Nat := do
        let why := match cause with
          | .number errno => Errno.systemDescription errno
          | cause => cause.text
        modify fun s => s.send 2 (name ++ ": ".toList ++ path ++ ": ".toList ++ why ++ ['\n'])
        return 1
      match s.resolve path with
      | .error cause => refuse cause
      | .ok (_, node) =>
        if node.isDirectory then refuse (.number isDirectory)
        else if !node.allows .read then refuse (.number notPermitted)
        else copy (← Builtin.openText path)
  return results.foldl max 0

/-- Ends the process as a small program does. -/
def finish (status : Nat) : Action Flow := do
  modify fun s => { s with traps := [] }
  Action.setStatus status
  throw .exited

/-- Ends the process after an action that gives the status. It complains where there
is no output. -/
def writing (name : Text) (what : String) (action : Action Nat) : Action Flow := do
  let s ← get
  match s.stream? 1 with
  | some _ => finish (← action)
  | none =>
    set (s.send 2 (name ++ ": ".toList ++ what.toList ++ ": ".toList ++
      Errno.systemDescription 9 ++ ['\n']))
    finish 1

def failureStatus (cause : SystemError) : Nat :=
  match cause with
  | .number errno =>
    if [notFound, notDirectory, nameTooLong, Image.tooManyLinks].contains errno then 127 else 126
  | _ => 126

/-- The arguments of the program that runs another one in a changed environment: one
that a script's first line gives it may hold several. -/
def environmentArguments : List Text → List Text
  | ('-' :: 'S' :: line) :: rest => Text.words line ++ rest
  | arguments => arguments

def environmentFailure (name command : Text) (cause : SystemError) : Action Flow := do
  let why := match cause with
    | .number errno => Errno.systemDescription errno
    | cause => cause.text
  let hint := if cause = .number notFound && command.contains ' ' then
    name ++ ": use -[v]S to pass options in shebang lines\n".toList else []
  modify fun s => s.send 2 (name ++ ": '".toList ++ command ++ "': ".toList ++ why ++ '\n' :: hint)
  finish (failureStatus cause)

/-- The process becomes a program, and ends with it. One program may run another one so
often at most. -/
def become (run : Runner) : Nat → Image → Action Flow
  | 0, _ => throw .late
  | limit + 1, image =>
    match image.program with
    | .yes => finish 0
    | .no => finish 1
    | .echo => writing image.name "write error" do
      modify fun s => s.send 1 (echoOutput true false image.arguments)
      return 0
    | .cat => writing image.name "standard output" (cat image.name image.arguments)
    | .environment => do
      let (assignments, command) := (environmentArguments image.arguments).span fun t =>
        t.contains '='
      modify fun s => assignments.foldl (fun (s : State) t =>
        let name := Action.nameIn t
        s.bind ⟨name, some (t.drop (name.length + 1)), true, false⟩) s
      match command with
      | [] =>
        let s ← get
        let shown := s.bindings.reverse.flatMap fun b =>
          if b.exported then b.name ++ '=' :: b.value.getD [] ++ ['\n'] else []
        set (s.send 1 shown)
        finish 0
      | command :: rest =>
        let s ← get
        let found : Except SystemError Text :=
          if command.contains '/' then .ok command
          else Lookup.search s (Lookup.currentPath s) command fun node => node.allows .execute
        match found.bind fun path => Image.find s.tree s.directory path rest with
        | .ok image => become run limit image
        | .error cause => environmentFailure image.name command cause
    | .shell => do
      let _ ← shell run image.name image.arguments
      throw .exited

def chainLimit : Nat := 100

/-- Becomes the program of a path. A file that says of no program that it runs it is
run by a shell. The answer is why there is no such program. -/
def execute (run : Runner) (path : Text) (arguments : List Text) : Action SystemError := do
  let s ← get
  match Image.find s.tree s.directory path arguments with
  | .ok image =>
    let _ ← become run chainLimit image
    return .number notFound
  | .error (.number errno) =>
    if errno = badExecutable then
      let _ ← become run chainLimit ⟨.shell, "/bin/sh".toList, path :: arguments⟩
      return .number errno
    else return .number errno
  | .error cause => return cause

end Invocation

end DiskPrep.Machine.Shell
