import DiskPrep.Machine.Shell.Field
import DiskPrep.Machine.Shell.Switches

/-!
Commands that change what names mean: of values, of short forms for commands, of
arguments and of options.
-/
namespace DiskPrep.Machine.Shell.Builtin

/-- A name and, after an equals sign, a value. -/
def nameAndValue (t : Text) : Text × Option Text :=
  match t.dropWhile (· != '=') with
  | '=' :: value => (t.takeWhile (· != '='), some value)
  | _ => (t, none)

/-- Bindings in the order of their names, each on a line after a word. -/
def listing (word : Text) (bindings : List Binding) : Text :=
  (bindings.mergeSort fun a b => !Path.textLess b.name a.name).flatMap fun b =>
    word ++ (if word.isEmpty then [] else [' ']) ++ b.name ++ (match b.value with
      | some value => '=' :: quoted value
      | none => []) ++ ['\n']

inductive Mark where
  | exported
  | constant
  deriving DecidableEq, Repr

namespace Mark

def put (mark : Mark) (b : Binding) : Binding :=
  match mark with
  | exported => { b with exported := true }
  | constant => { b with constant := true }

def isOn (mark : Mark) (b : Binding) : Bool :=
  match mark with
  | exported => b.exported
  | constant => b.constant

end Mark

def markName (mark : Mark) (argument : Text) : Action Unit := do
  let (name, value) := nameAndValue argument
  match value with
  | some value => Action.assign name value
  | none => pure ()
  let s ← get
  match s.binding? name with
  | some b => set (s.bind (mark.put b))
  | none =>
    if isName name then set (s.bind (mark.put ⟨name, none, false, false⟩))
    else Action.fail (name ++ ": bad variable name".toList)

def markNames (mark : Mark) (word : Text) (arguments : List Text) : Action Outcome := do
  let listed ← Switches.beginsWith ['p'] arguments
  let rest ← if listed then pure [] else Switches.none arguments
  if rest.isEmpty then
    return .printed (listing word ((← get).bindings.filter mark.isOn))
  else
    rest.forM (markName mark)
    return .ended 0

/-- Gives names values that they lose when the function ends. -/
def declareLocal (arguments : List Text) : Action Outcome := do
  if (← get).scopes.isEmpty then Action.fail "not in a function".toList
  else
    arguments.forM fun argument => do
      let s ← get
      if argument = ['-'] then Action.remember (.options s.options)
      else
        let (name, value) := nameAndValue argument
        let before := s.binding? name
        match value with
        | some value =>
          if isName name then Action.assign name value
          else set (s.bind ⟨name, some value, false, false⟩)
        | none =>
          if before.isNone && !isName name then
            Action.fail (name ++ ": bad variable name".toList)
        Action.remember (.binding name before)
    return .ended 0

def unset (arguments : List Text) : Action Outcome := do
  let (switches, names) ← Switches.take "vf".toList arguments
  names.forM fun name =>
    if (switches.getLast?.map Switch.letter) = some 'f' then
      modify fun s => { s with functions := s.functions.filter fun f => f.1 != name }
    else Action.unassign name
  return .ended 0

def aliasParts : Nat := 39

def aliasLine (a : Text × Text) : Text := a.1 ++ '=' :: quoted a.2 ++ ['\n']

def noAlias (word name : Text) : Action Unit :=
  modify fun s => s.send 2 (word ++ ": ".toList ++ name ++ " not found\n".toList)

def defineAliases (arguments : List Text) : Action Outcome := do
  if arguments.isEmpty then
    let ordered := (← get).aliases.mergeSort fun (a b : Text × Text) =>
      tablePart aliasParts a.1 ≤ tablePart aliasParts b.1
    return .printed (ordered.flatMap aliasLine)
  else
    arguments.foldlM (fun (outcome : Outcome) (argument : Text) => do
      let s : State ← get
      let define? : Option (Text × Text) := match argument with
        | [] => none
        | c :: rest =>
          match nameAndValue rest with
          | (name, some value) => some (c :: name, value)
          | (_, none) => none
      match define? with
      | some (name, value) =>
        let isIt (a : Text × Text) : Bool := a.1 == name
        set { s with aliases :=
          if s.aliases.any isIt then s.aliases.map fun a => if isIt a then (name, value) else a
          else s.aliases ++ [(name, value)] }
        return outcome
      | none =>
        match s.aliases.find? (fun (a : Text × Text) => a.1 == argument) with
        | some a => return { outcome with output := outcome.output ++ aliasLine a }
        | none =>
          noAlias "alias".toList argument
          return { outcome with status := 1 }) (Outcome.ended 0)

def unalias (arguments : List Text) : Action Outcome := do
  if ← Switches.beginsWith ['a'] arguments then
    modify fun s => { s with aliases := [] }
    return .ended 0
  else
    let names ← Switches.none arguments
    let results ← names.mapM fun (name : Text) => do
      let s : State ← get
      if s.aliases.any (fun a => a.1 == name) then
        set { s with aliases := s.aliases.filter fun a => a.1 != name }
        return 0
      else
        noAlias "unalias".toList name
        return 1
    return .ended (results.foldl max 0)

def optionNames : List (String × Char) :=
  [("errexit", 'e'), ("noglob", 'f'), ("ignoreeof", 'I'), ("interactive", 'i'), ("monitor", 'm'),
    ("noexec", 'n'), ("stdin", 's'), ("xtrace", 'x'), ("verbose", 'v'), ("vi", 'V'),
    ("emacs", 'E'), ("noclobber", 'C'), ("allexport", 'a'), ("notify", 'b'), ("nounset", 'u'),
    ("privileged", 'p'), ("nolog", '\x01'), ("debug", '\x02')]

/-- Options that have a name and no letter. -/
def isLetter (c : Char) : Bool := 32 < c.toNat

/-- Turns an option on or off. Of two ways to edit, one is on at most. -/
def turn (on : Bool) (letter : Char) : Action Unit :=
  modify fun s =>
    let others := s.options.filter fun c => c != letter &&
      !(on && ((letter == 'V' && c == 'E') || (letter == 'E' && c == 'V')))
    { s with options := if on then letter :: others else others }

def turnLetter (on : Bool) (letter : Char) : Action Unit := do
  if isLetter letter && optionNames.any fun o => o.2 == letter then turn on letter
  else Action.fail ("Illegal option -".toList ++ [letter])

def turnName (on : Bool) (name : Text) : Action Unit := do
  match optionNames.find? fun o => o.1.toList == name with
  | some (_, letter) => turn on letter
  | none => Action.fail ("Illegal option -o ".toList ++ name)

def optionListing (s : State) (table : Bool) : Text :=
  let start := if table then "Current option settings\n".toList else []
  start ++ optionNames.flatMap fun (name, letter) =>
    let name := name.toList
    if table then
      name ++ List.replicate (16 - name.length) ' ' ++
        (if s.isOn letter then "on".toList else "off".toList) ++ ['\n']
    else
      "set ".toList ++ (if s.isOn letter then "-o ".toList else "+o ".toList) ++ name ++ ['\n']

def setArguments (arguments : List Text) : Action Unit :=
  modify fun s => { s with arguments := arguments, optionIndex := 1, optionPlace := none }

/-- Takes the letters of options; the answer is the output and the arguments left. -/
def takeLetters (on : Bool) (rest : List Text) : Text → Action (Text × List Text)
  | [] => return ([], rest)
  | 'o' :: letters => do
    match rest with
    | [] =>
      let output := optionListing (← get) on
      let (more, rest) ← takeLetters on [] letters
      return (output ++ more, rest)
    | name :: rest =>
      turnName on name
      takeLetters on rest letters
  | letter :: letters => do
    turnLetter on letter
    takeLetters on rest letters

/-- Takes the options at the start of arguments, of which there are so many at most.
A minus sign alone turns the options off that show what is done. -/
def takeOptions : Nat → List Text → Action (Text × List Text)
  | 0, rest => return ([], rest)
  | limit + 1, arguments => do
    match arguments with
    | ['-'] :: rest =>
      turn false 'x'
      turn false 'v'
      return ([], rest)
    | ['-', '-'] :: rest =>
      if rest.isEmpty then setArguments []
      return ([], rest)
    | (sign :: letters) :: rest =>
      if sign = '-' ∨ sign = '+' then
        let (output, rest) ← takeLetters (sign == '-') rest letters
        let (more, rest) ← takeOptions limit rest
        return (output ++ more, rest)
      else return ([], arguments)
    | _ => return ([], arguments)

def setOptions (arguments : List Text) : Action Outcome := do
  if arguments.isEmpty then
    return .printed (listing [] ((← get).bindings.filter fun b => b.value.isSome))
  else
    let monitored := (← get).isOn 'm'
    let (output, rest) ← takeOptions (arguments.length + 1) arguments
    if (← get).isOn 'm' && !monitored then
      turn false 'm'
      Action.complain "can't access tty; job control turned off".toList
    if !rest.isEmpty then setArguments rest
    return .printed output

def shift (arguments : List Text) : Action Outcome := do
  let n ← match arguments with
    | [] => pure 1
    | n :: _ => Action.number n
  let s ← get
  if s.arguments.length < n then Action.fail "can't shift that many".toList
  else
    setArguments (s.arguments.drop n)
    return .ended 0

structure OptionStep where
  /-- Arguments that are done with. -/
  index : Nat
  /-- The place in the last of them where the reading goes on. -/
  place : Option Nat
  letter : Char
  /-- The word of the option; without one the old word is taken away. -/
  word : Option Text
  /-- What is wrong. -/
  complaint : Option Text
  ended : Bool

/-- The next option among words, after so many words and at a place in the last of
them. -/
def nextOption (allowed : Text) (words : List Text) (index : Nat) (place : Option Nat) :
    OptionStep :=
  let silent := allowed.head? == some ':'
  let letters : Text := match place, (if index = 0 then none else words[index - 1]?) with
    | some n, some word => word.drop n
    | _, _ => []
  let atEnd (index : Nat) : OptionStep := ⟨index, none, '?', none, none, true⟩
  let read (index : Nat) (word : Text) (c : Char) (letters : Text) : OptionStep :=
    let place (letters : Text) : Option Nat := some (word.length - letters.length)
    let missing (what : String) (letter : Char) : OptionStep :=
      if silent then ⟨index, place letters, letter, some [c], none, false⟩
      else ⟨index, place letters, '?', none, some (what.toList.map fun d => if d = '%' then c else d),
        false⟩
    match Switches.takesWord? allowed c with
    | none => missing "Illegal option -%" '?'
    | some false => ⟨index, place letters, c, some [], none, false⟩
    | some true =>
      match letters, words[index]? with
      | _ :: _, _ => ⟨index, none, c, some letters, none, false⟩
      | [], some word => ⟨index + 1, none, c, some word, none, false⟩
      | [], none => missing "No arg for -% option" ':'
  match letters with
  | c :: letters => read index (words[index - 1]?.getD []) c letters
  | [] =>
    match words[index]? with
    | some ['-', '-'] => atEnd (index + 1)
    | some ('-' :: c :: letters) => read (index + 1) ('-' :: c :: letters) c letters
    | _ => atEnd index

def getopts (arguments : List Text) : Action Outcome := do
  match arguments with
  | allowed :: name :: words =>
    let s ← get
    let words := if words.isEmpty then s.arguments else words
    let (index, place) : Nat × Option Nat :=
      if words.length + 1 < s.optionIndex then (0, none) else (s.optionIndex - 1, s.optionPlace)
    let step := nextOption allowed words index place
    if !step.ended then
      match step.word with
      | some word => Action.assign "OPTARG".toList word
      | none => Action.unassign "OPTARG".toList
    match step.complaint with
    | some what => modify fun s => s.send 2 (what ++ ['\n'])
    | none => pure ()
    Action.assign "OPTIND".toList (decimal (step.index + 1))
    Action.assign name [step.letter]
    modify fun s => { s with optionIndex := step.index + 1, optionPlace := step.place }
    return .ended (if step.ended then 1 else 0)
  | _ => Action.fail "Usage: getopts optstring var [arg...]".toList

/-- A line while it is read: its parts, of which the last one has begun, and whether a
backslash was read last. -/
structure LineDraft where
  parts : List Segment
  current : List Cell
  escaping : Bool

namespace LineDraft

def closed (d : LineDraft) : List Segment := ⟨.split, d.current.reverse⟩ :: d.parts

/-- One more character. A backslash takes the next character out of what is split,
and a line feed out of the line. -/
def push (raw : Bool) (d : LineDraft) (c : Char) : LineDraft ⊕ LineDraft :=
  if c = '\x00' then .inl d
  else if d.escaping then
    if c = '\n' then .inl ⟨d.closed, [], false⟩
    else .inl ⟨⟨.whole, [.quoted c]⟩ :: d.closed, [], false⟩
  else if !raw && c == '\\' then .inl { d with escaping := true }
  else if c = '\n' then .inr d
  else .inl { d with current := .plain c :: d.current }

end LineDraft

def readLine (raw : Bool) : Action (List Segment × Bool) := do
  let (d, complete) ← repeatAction (fun (d : LineDraft) => do
    match (← get).receive? 0 with
    | some (some c, s) =>
      set s
      match d.push raw c with
      | .inl d => return .inl d
      | .inr d => return .inr (d, true)
    | _ => return .inr (d, false)) repetitionLimit ⟨[], [], false⟩
  return (d.closed.reverse, complete)

/-- Reads a line and gives its fields to names; the last one gets all that is left. -/
def read (arguments : List Text) : Action Outcome := do
  let (switches, names) ← Switches.take "p:r".toList arguments
  if names.isEmpty then Action.fail "arg count".toList
  else
    let (parts, complete) ← readLine (switches.any fun o => o.letter == 'r')
    let fields := Field.split (← get).separators (some names.length) parts
    (names.zipIdx).forM fun (name, i) => Action.assign name (Cell.text (fields[i]?.getD []))
    return .ended (if complete then 0 else 1)

end DiskPrep.Machine.Shell.Builtin
