import DiskPrep.Machine.Shell.Condition
import DiskPrep.Machine.Shell.Format
import DiskPrep.Machine.Shell.Lookup

/-!
Commands that only say something: what they are given, how a test came out, or what a
name means.
-/
namespace DiskPrep.Machine.Shell.Builtin

def echo (arguments : List Text) : Action Outcome := return .printed (echoText arguments)

def printf (arguments : List Text) : Action Outcome := do
  match ← Switches.none arguments with
  | [] => Action.fail "usage: printf format [arg ...]".toList
  | format :: arguments =>
    let p := Printing.run format arguments
    p.complaints.reverse.forM Action.complain
    let output := p.written.reverse
    match p.refusal with
    | some what =>
      Action.complain what
      return ⟨2, output, .next⟩
    | none => return ⟨if p.complaints.isEmpty then 0 else 1, output, .next⟩

def test (words : List Text) : Action Outcome := do
  match Condition.holds (← get) words with
  | .ok holds => return .ended (if holds then 0 else 1)
  | .error what => Action.fail what

def bracket (words : List Text) : Action Outcome := do
  match words.getLast? with
  | some (']' :: _) => test words.dropLast
  | _ => Action.fail "missing ]".toList

def type (names : List Text) : Action Outcome := do
  let said ← names.mapM (Lookup.describe none true)
  return ⟨said.foldl (fun status d => status ||| d.2) 0, said.flatMap Prod.fst, .next⟩

/-- Says what a name means; without that wish it does nothing. -/
def command (arguments : List Text) : Action Outcome := do
  let (switches, names) ← Switches.take "pvV".toList arguments
  let asked (letter : Char) : Bool := switches.any fun o => o.letter == letter
  match names with
  | [] => return .ended 0
  | name :: _ =>
    if asked 'v' || asked 'V' then
      let path := if asked 'p' then some Lookup.defaultPath else none
      let (said, status) ← Lookup.describe path (asked 'V') name
      return ⟨status, said, .next⟩
    else return .ended 0

def foundParts : Nat := 31

/-- Looks programs up, or lists those that have been found, or forgets them. -/
def hash (arguments : List Text) : Action Outcome := do
  let (switches, names) ← Switches.take ['r'] arguments
  if !switches.isEmpty then
    modify fun s => { s with found := [] }
    return .ended 0
  else if names.isEmpty then
    let ordered := (← get).found.mergeSort fun (a b : Text × Text) =>
      tablePart foundParts a.1 ≤ tablePart foundParts b.1
    return .printed (ordered.flatMap fun f => f.2 ++ ['\n'])
  else
  let results ← names.mapM fun name => do
    let s : State ← get
    match Lookup.meaning s true (Lookup.currentPath s) name with
    | .nothing cause =>
      Action.complain (name ++ ": ".toList ++ Purpose.execute.reason cause)
      return 1
    | .program path =>
      Lookup.remember name path
      return 0
    | _ => return 0
  return .ended (results.foldl max 0)

/-- The time that a script has taken, which nobody measures. -/
def times (_ : List Text) : Action Outcome :=
  return .printed "0m0.000000s 0m0.000000s\n0m0.000000s 0m0.000000s\n".toList

end DiskPrep.Machine.Shell.Builtin
