import DiskPrep.Machine.Shell.Builtin.Jobs
import DiskPrep.Machine.Shell.Builtin.Output
import DiskPrep.Machine.Shell.Builtin.Surroundings
import DiskPrep.Machine.Shell.Invocation

/-!
Carrying commands out. Commands stand in commands, so one step takes the runner of
what stands inside as an argument; the last definition ties the step to itself for
any depth up to a limit.
-/
namespace DiskPrep.Machine.Shell

def builtin (run : Runner) (tested : Bool) (name : Text) (arguments : List Text) :
    Action Outcome :=
  match String.ofList name with
  | ":" => return .ended 0
  | "." => Builtin.source run arguments
  | "[" => Builtin.bracket arguments
  | "alias" => Builtin.defineAliases arguments
  | "bg" => Builtin.foreground arguments
  | "break" => Builtin.leaveLoops .leave arguments
  | "cd" => Builtin.cd arguments
  | "chdir" => Builtin.cd arguments
  | "command" => Builtin.command arguments
  | "continue" => Builtin.leaveLoops .again arguments
  | "echo" => Builtin.echo arguments
  | "eval" => Builtin.eval run tested arguments
  | "exit" => Builtin.exit arguments
  | "export" => Builtin.markNames .exported name arguments
  | "false" => return .ended 1
  | "fg" => Builtin.foreground arguments
  | "getopts" => Builtin.getopts arguments
  | "hash" => Builtin.hash arguments
  | "jobs" => Builtin.jobs arguments
  | "kill" => Builtin.kill run arguments
  | "local" => Builtin.declareLocal arguments
  | "printf" => Builtin.printf arguments
  | "pwd" => Builtin.pwd arguments
  | "read" => Builtin.read arguments
  | "readonly" => Builtin.markNames .constant name arguments
  | "return" => Builtin.leaveCall arguments
  | "set" => Builtin.setOptions arguments
  | "shift" => Builtin.shift arguments
  | "test" => Builtin.test arguments
  | "times" => Builtin.times arguments
  | "trap" => Builtin.trap arguments
  | "true" => return .ended 0
  | "type" => Builtin.type arguments
  | "ulimit" => Builtin.ulimit arguments
  | "umask" => Builtin.umask arguments
  | "unalias" => Builtin.unalias arguments
  | "unset" => Builtin.unset arguments
  | "wait" => Builtin.wait run arguments
  | _ => return .ended 127

namespace Execution

/-- The descriptors of a process, with those led back that redirections changed. -/
def ledBack (before : State) (plans : List (Nat × Redirection.Plan)) (s : State) : State :=
  plans.foldl (fun s (descriptor, _) =>
    match before.descriptors.find? fun d => d.1 == descriptor with
    | some (_, n) => s.lead descriptor n
    | none => s.close descriptor) s

/-- Carries redirections out for an action. They end with it, unless they are lasting
and it goes well. Where they fail, the answer is none. -/
def redirected {α : Type} (run : Runner) (plans : List (Nat × Redirection.Plan)) (lasting : Bool)
    (action : Action α) : Action (Option α) := do
  let before ← get
  let result ← Action.attempt do
    if ← Redirection.performAll run true plans then some <$> action else return none
  let stays := lasting && match result with
    | .ok (some _) => true
    | _ => false
  if !stays then modify (ledBack before plans)
  Action.resume result

/-- The words of a command that has been read so far: fields, and words that are still
to be expanded. -/
structure Words where
  fields : List Text
  left : List Word

def Words.expandFirst (run : Runner) (w : Words) : Action Words :=
  if !w.fields.isEmpty then return w
  else repeatAction (fun (left : List Word) => do
    match left with
    | [] => return .inr ⟨[], []⟩
    | word :: left =>
      match ← Expansion.fields run word with
      | [] => return .inl left
      | fields => return .inr ⟨fields, left⟩) (w.left.length + 1) w.left

structure Choice where
  /-- What its name means, if it has one. -/
  meaning : Option Meaning
  /-- Its first name is that of a special command, or of another one that is part of
  the language. -/
  special : Option Bool
  /-- It is looked for among functions. -/
  functions : Bool
  /-- It is looked for on the path that every machine has. -/
  onDefaultPath : Bool
  /-- Fields before those of the command itself. -/
  before : List Text
  words : Words

def Choice.path (c : Choice) (s : State) : Text :=
  if c.onDefaultPath then Lookup.defaultPath else Lookup.currentPath s

/-- Leaves out the options after the name of the command that runs another one. There
is no other one if an option asks for something else, or nothing follows. -/
def withoutOptions (run : Runner) : Nat → Choice → Action (Option Choice)
  | 0, _ => return none
  | limit + 1, c => do
    let words ← c.words.expandFirst run
    let c := { c with words := words }
    match words.fields with
    | [] => return none
    | field :: rest =>
      let after : Choice := { c with
        before := c.before ++ [field]
        words := ⟨rest, words.left⟩ }
      match field with
      | ['-', '-'] =>
        let words ← after.words.expandFirst run
        return if words.fields.isEmpty then none else some { after with words := words }
      | '-' :: letter :: letters =>
        if (letter :: letters).all (· == 'p') then
          withoutOptions run limit { after with onDefaultPath := true }
        else return none
      | _ => return some c

/-- Finds what the first field means, past the command that runs another one. -/
def choose (run : Runner) : Nat → Choice → Action Choice
  | 0, c => return c
  | limit + 1, c => do
    match c.words.fields with
    | [] => return c
    | name :: rest =>
      let s ← get
      let meaning := Lookup.meaning s c.functions (c.path s) name
      let c := { c with meaning := some meaning }
      match meaning with
      | .builtin isSpecial =>
        let c := { c with special := c.special <|> some isSpecial }
        if name ≠ "command".toList then return c
        else
          let next : Choice := { c with
            functions := false
            before := c.before ++ [name]
            words := ⟨rest, c.words.left⟩ }
          match ← withoutOptions run (rest.length + c.words.left.length + 1) next with
          | some next => choose run limit next
          | none => return c
      | _ => return c

def takesAssignments (name : Text) : Bool :=
  ["export", "readonly", "local", "alias"].any fun n => n.toList == name

def argumentFields (run : Runner) (assigning : Bool) (word : Word) : Action (List Text) := do
  match if assigning then word.assignment? else none with
  | some (name, value) => return [name ++ '=' :: (← Expansion.text run .value value)]
  | none => Expansion.fields run word

/-- Shows a command before it is run, if the option for that is on. It is shown where
complaints went before the command's own redirections. -/
def trace (run : Runner) (before : State) (shown : List Text) : Action Unit := do
  let s ← get
  if s.isOn 'x' then
    set { s with options := s.options.filter (· != 'x') }
    let start ← Expansion.shownText run "PS4".toList
    modify fun s => { s with options := 'x' :: s.options }
    modify fun s =>
      let sent := { s with descriptors := before.descriptors }.send 2
        (start ++ Text.spaced shown ++ ['\n'])
      { sent with descriptors := s.descriptors }

def runProgram (run : Runner) (path name : Text) (arguments : List Text) : Action Unit := do
  let exit ← Action.subprocess run do
    let cause ← Invocation.execute run path arguments
    Action.exitWith (name ++ ": ".toList ++ Purpose.execute.reason cause)
      (Invocation.failureStatus cause)
  Action.setStatus (← Action.statusOf exit)

/-- Calls of functions that are open at most. -/
def callLimit : Nat := 1000

def call (run : Runner) (tested : Bool) (body : Command) (arguments : List Text) : Action Flow := do
  let outer ← get
  if callLimit ≤ outer.calls then
    Action.fail ("Maximum function recursion depth (".toList ++ decimal callLimit ++
      ") reached".toList)
  else
    set { outer with
      arguments := arguments
      optionIndex := 1
      optionPlace := none
      loops := 0
      calls := outer.calls + 1 }
    let result ← Action.attempt (run body tested)
    modify fun s => { s with
      arguments := outer.arguments
      optionIndex := outer.optionIndex
      optionPlace := outer.optionPlace
      loops := outer.loops
      calls := outer.calls }
    match ← Action.resume result with
    | .back _ => return .next
    | flow => return flow

/-- Becomes another program. Without one there is nothing to do. -/
def exec (run : Runner) (path : Text) (arguments : List Text) : Action Outcome := do
  match arguments with
  | [] => return .ended 0
  | name :: rest =>
    let s ← get
    let found : Except SystemError Text :=
      if name.contains '/' then .ok name
      else Lookup.search s path name fun node => node.allows .execute
    let cause ← match found with
      | .ok path => Invocation.execute run path rest
      | .error cause => pure cause
    Action.exitWith (name ++ ": ".toList ++ Purpose.execute.reason cause)
      (Invocation.failureStatus cause)

/-- Runs a command that is part of the language. Its output is written when it has
ended. If it fails and is not special, the script goes on. -/
def runBuiltin (run : Runner) (tested isSpecial : Bool) (name path : Text)
    (arguments : List Text) : Action Flow := do
  let before := (← get).commandName
  modify fun s => { s with commandName := some name }
  let result ← Action.attempt do
    let outcome ← if name = "exec".toList then exec run path arguments
      else builtin run tested name arguments
    let s ← get
    let written? := if outcome.output.isEmpty then some s else s.send? 1 outcome.output
    match written? with
    | some s =>
      set s
      Action.setStatus outcome.status
    | none =>
      Action.complain (name ++ ": I/O error".toList)
      Action.setStatus (outcome.status ||| 1)
    return outcome.flow
  modify fun s => { s with commandName := before }
  match result with
  | .error .failed => if isSpecial then throw .failed else return .next
  | result => Action.resume result

/-- Gives names their values, for one command or for good. -/
def assignAll (run : Runner) (passing exporting : Bool) (assignments : List (Text × Word)) :
    Action (List Text) :=
  assignments.mapM fun (name, word) => do
    let value ← Expansion.text run .value word
    if passing then
      Action.remember (.binding name ((← get).binding? name))
    if passing || exporting then Action.assignExported name value else Action.assign name value
    return name ++ '=' :: value

def runChosen (run : Runner) (tested : Bool) (c : Choice) (fields : List Text) : Action Flow := do
  match fields with
  | [] =>
    Action.setStatus (← get).outputStatus
    return .next
  | name :: arguments =>
    let s ← get
    let path := c.path s
    match Lookup.meaning s c.functions path name with
    | .function body => call run tested body arguments
    | .builtin _ => runBuiltin run tested (c.special == some true) name path arguments
    | .program path =>
      if !c.onDefaultPath then Lookup.remember name path
      runProgram run path name arguments
      return .next
    | .nothing cause =>
      Action.complain (name ++ ": ".toList ++ Purpose.execute.reason cause)
      Action.setStatus 127
      return .next

def simple (run : Runner) (tested : Bool) (line : Nat) (assignments : List (Text × Word))
    (words : List Word) (redirections : List Redirection) : Action Flow := do
  modify fun s => { s with line := line, outputStatus := 0 }
  let first ← Words.expandFirst run ⟨[], words⟩
  let c ← choose run (words.length + first.fields.length + 1) ⟨none, none, true, false, [], first⟩
  let assigning := match c.meaning with
    | some (.builtin _) => takesAssignments (c.words.fields.headD [])
    | _ => false
  let rest ← c.words.left.mapM (argumentFields run assigning)
  let fields := c.words.fields ++ rest.flatten
  let runsExec := fields.head? == some "exec".toList && c.special.isSome
  let passing := !fields.isEmpty && c.special != some true
  let depth := (← get).scopes.length
  if passing then Action.openScope
  let plans ← Redirection.expand run redirections
  let before ← get
  let result ← redirected run plans runsExec do
    let assigned ← assignAll run passing (runsExec && 1 < fields.length) assignments
    trace run before (assigned ++ c.before ++ fields)
    runChosen run tested c fields
  let flow ← match result with
    | some flow => pure flow
    | none =>
      Action.setStatus 2
      if c.special = some true then throw .failed else pure .next
  Action.closeScopes depth
  return flow

/-- Runs a writer, and then a reader of the stream that it has written. A writer that
takes too long has written enough if the reader does not come to the end of it;
otherwise both begin again, and the writer is given more time. -/
def throughPipe (run : Runner) (writer : Action Flow) (reader : Nat → Action Exit) :
    List Nat → Action Exit
  | [] => throw .late
  | time :: times => do
    let before ← get
    let (exit?, written) ← Action.collect run time writer
    let (n, s) := (← get).openStream (.waiting written)
    set s
    let exit ← reader n
    let after ← get
    let wanting := match after.streams[n]? with
      | some (.waiting []) => true
      | _ => false
    if exit?.isNone && wanting then
      set { before with rounds := after.rounds }
      throughPipe run writer reader times
    else return exit

/-- Commands of which each reads what the one before it writes; the answer is how the
last one ended. -/
def pipeline (run : Runner) (tested : Bool) : Option Nat → List Command → Action Exit
  | _, [] => return .status 0
  | input, command :: rest => do
    let body : Action Flow := do
      match input with
      | some n => modify fun s => s.lead 0 n
      | none => pure ()
      run command tested
    match rest with
    | [] => Action.inCopy run [Action.briefTime] body
    | rest =>
      throughPipe run body (fun n => pipeline run tested (some n) rest) Action.times

/-- How a loop goes on after a part of it: whether it is left, and how. -/
def loopFlow (flow : Flow) : Bool × Flow :=
  match flow with
  | .next => (false, .next)
  | .again 1 => (false, .next)
  | .leave 1 => (true, .next)
  | .again n => (true, .again (n - 1))
  | .leave n => (true, .leave (n - 1))
  | .back own => (true, .back own)

def inLoop (action : Action Flow) : Action Flow := do
  modify fun s => { s with loops := s.loops + 1 }
  let flow ← action
  modify fun s => { s with loops := s.loops - 1 }
  return flow

/-- Repeats a body as long as a condition ends as wanted. -/
def loop (run : Runner) (tested wanted : Bool) (condition body : Command) : Action Flow :=
  inLoop <| repeatAction (fun (status : Nat) => do
    Action.round run
    let flow ← run condition true
    match flow, loopFlow flow with
    | .next, _ =>
      if ((← get).status == 0) == wanted then
        let flow ← run body tested
        let status := (← get).status
        match loopFlow flow with
        | (false, _) => return .inl status
        | (true, flow) => return .inr flow
      else
        Action.setStatus status
        return .inr .next
    | _, (false, _) => return .inl status
    | flow, (true, after) =>
      if flow ≠ .back true then Action.setStatus status
      return .inr after) repetitionLimit 0

def forEach (run : Runner) (tested : Bool) (name : Text) (body : Command) :
    List Text → Action Flow
  | [] => return .next
  | word :: words => do
    Action.round run
    Action.assign name word
    let flow ← run body tested
    match loopFlow flow with
    | (false, _) => forEach run tested name body words
    | (true, flow) => return flow

/-- Runs the first arm of which a pattern fits the subject. -/
def chooseArm (run : Runner) (tested : Bool) (subject : Text) :
    List (List Word × Command) → Action Flow
  | [] => do
    Action.setStatus 0
    return .next
  | (patterns, body) :: arms => do
    let fits ← patterns.anyM fun word => return Pattern.fits (← Expansion.pattern run word) subject
    if !fits then chooseArm run tested subject arms
    else match body with
      | .nothing =>
        Action.setStatus 0
        return .next
      | body => run body tested

/-- Ends the script after a command that failed, if the option for that is on and
nobody looks at the failure. -/
def checked (tested : Bool) (action : Action Flow) : Action (Flow × Bool) := do
  let flow ← action
  let s ← get
  return (flow, s.isOn 'e' && !tested && s.status != 0)

/-- Carries a command out; the answer says how it leaves, and whether its failure ends
the script. -/
def perform (run : Runner) (tested : Bool) (command : Command) : Action (Flow × Bool) := do
  let unchecked (action : Action Flow) : Action (Flow × Bool) := do return (← action, false)
  match command with
  | .nothing => return (.next, false)
  | .simple line assignments words redirections =>
    checked tested (simple run tested line assignments words redirections)
  | .redirected line body redirections =>
    modify fun s => { s with line := line }
    let plans ← Redirection.expand run redirections
    checked tested do
      match ← redirected run plans false (run body tested) with
      | some flow => return flow
      | none =>
        Action.setStatus 2
        return .next
  | .subshell line body redirections =>
    modify fun s => { s with line := line }
    let plans ← Redirection.expand run redirections
    checked tested do
      let exit ← Action.subprocess run do
        if ← Redirection.performAll run false plans then run body tested else throw .failed
      Action.setStatus (← Action.statusOf exit)
      return .next
  | .pipeline parts =>
    checked tested do
      let streams := (← get).streams.length
      let exit ← Action.waitedFor (pipeline run tested none parts)
      modify fun s =>
        if s.waiting.isEmpty then { s with streams := s.streams.take streams } else s
      Action.setStatus (← Action.statusOf exit)
      return .next
  | .background body =>
    Action.startJob <| match body with
      | .subshell _ inner [] => inner
      | body => body
    Action.setStatus 0
    return (.next, false)
  | .negated body =>
    unchecked do
      let flow ← run body true
      Action.setStatus (if (← get).status = 0 then 1 else 0)
      return flow
  | .sequence first second =>
    unchecked do
      match ← run first tested with
      | .next => run second tested
      | flow => return flow
  | .both first second =>
    unchecked do
      let flow ← run first true
      if flow = .next ∧ (← get).status = 0 then run second tested else return flow
  | .either first second =>
    unchecked do
      let flow ← run first true
      if flow = .next ∧ (← get).status ≠ 0 then run second tested else return flow
  | .branch condition yes no =>
    unchecked do
      let flow ← run condition true
      if flow ≠ .next then return flow
      else if (← get).status = 0 then run yes tested
      else match no with
        | .nothing =>
          Action.setStatus 0
          return .next
        | no => run no tested
  | .loop wanted condition body => unchecked (loop run tested wanted condition body)
  | .forEach line name words body =>
    unchecked do
      modify fun s => { s with line := line }
      let fields ← Expansion.allFields run words
      if fields.isEmpty then Action.setStatus 0
      inLoop (forEach run tested name body fields)
  | .choose line subject arms =>
    unchecked do
      modify fun s => { s with line := line }
      let subject ← Expansion.text run .single subject
      chooseArm run tested subject arms
  | .define name body =>
    modify fun s => { s with functions := (name, body) :: s.functions.filter fun f => f.1 != name }
    Action.setStatus 0
    return (.next, false)

/-- Carries a command out between the actions of signals that have come. -/
def step (run : Runner) : Runner := fun command tested => do
  if (← get).isOn 'n' then return .next
  else
    let before ← Action.runPending run
    let (flow, ends) ← perform run tested command
    let after ← if flow = .next then Action.runPending run else pure flow
    if ends then throw .exited
    else return if after = .next then before else after

/-- The runner for commands that are nested so deeply at most. -/
def ofDepth : Nat → Runner
  | 0 => fun _ _ => throw (.killed 11)
  | depth + 1 => fun command tested => step (ofDepth depth) command tested

end Execution

def nestingLimit : Nat := 100000

def runner : Runner := Execution.ofDepth nestingLimit

end DiskPrep.Machine.Shell
