import DiskPrep.Machine.Shell.Redirection
import DiskPrep.Machine.Shell.Switches

/-!
Commands about what surrounds a process: its directory, the mask for new files, and
limits.
-/
namespace DiskPrep.Machine.Shell.Builtin

/-- The path of the directory that a process is in. -/
def physicalDirectory (s : State) : Text := Text.bytewise (FileTree.pathOf s.directory)

/-- The directory that a process says it is in. -/
def currentDirectory (s : State) : Text :=
  if s.doubled then '/' :: physicalDirectory s else physicalDirectory s

def resolvedNames (start : Location) (path : Text) : Location :=
  (FileTree.pieces path).foldl (fun names piece =>
    if piece = ['.'] then names
    else if piece = ['.', '.'] then names.dropLast
    else names ++ [piece]) (FileTree.origin start path)

/-- The directory of a path, if a process may search it. Where the path is not taken as
it is, its dots are resolved before it is looked at. -/
def entered? (s : State) (asItIs : Bool) (path : Text) : Option Location := do
  let path := if asItIs then path else
    Text.bytewise (FileTree.pathOf (resolvedNames s.directory (Text.ofBytewise path)))
  match s.resolve path with
  | .ok (location, node) => if node.isDirectory && node.allows .execute then some location else none
  | .error _ => none

def isDoubled (path : Text) : Bool :=
  path.take 2 == ['/', '/'] && path[2]? != some '/'

/-- A path that is looked for nowhere else. -/
def isExact (path : Text) : Bool :=
  path.head? == some '/' || [['.'], ['.', '.']].contains (path.takeWhile (· != '/'))

/-- Of the switches of commands about directories, the last one that says that links and
dots count as they are. -/
def isPhysical (switches : List Switch) : Bool :=
  (switches.getLast?.map Switch.letter) == some 'P'

/-- Goes to another directory: home without an argument, and back after a minus sign. -/
def cd (arguments : List Text) : Action Outcome := do
  let (switches, arguments) ← Switches.take "LP".toList arguments
  let physical := isPhysical switches
  let s ← get
  let back := arguments.head? == some ['-']
  let wanted : Text := match arguments with
    | [] => (s.valueOf? "HOME".toList).getD []
    | path :: _ => if back then (s.valueOf? "OLDPWD".toList).getD [] else path
  let path : Text := if wanted.isEmpty then ['.'] else wanted
  let starts : List Text :=
    if isExact wanted then [[]]
    else ((s.valueOf? "CDPATH".toList).map fun p => p.splitOn ':').getD [] ++ [[]]
  let candidates : List Text := starts.map fun start =>
    if start.isEmpty then path else start ++ '/' :: path
  let entered := candidates.zip starts |>.findSome? fun (full, start) =>
    (entered? s physical full).map fun location => (!start.isEmpty, full, location)
  match entered with
  | none => Action.fail ("can't cd to ".toList ++ path)
  | some (found, full, location) =>
    Action.assignExported "OLDPWD".toList (currentDirectory s)
    modify fun s => { s with
      directory := location
      doubled := !physical && (if full.head? = some '/' then isDoubled full else s.doubled) }
    let here := currentDirectory (← get)
    Action.assignExported "PWD".toList here
    return .printed (if back || found then here ++ ['\n'] else [])

def pwd (arguments : List Text) : Action Outcome := do
  let (switches, _) ← Switches.take "LP".toList arguments
  let s ← get
  return .printed ((if isPhysical switches then physicalDirectory s else currentDirectory s) ++ ['\n'])

def userPlaces : List (Char × Nat) := [('u', 0o100), ('g', 0o10), ('o', 0o1)]

def rightBits : List (Char × Nat) := [('r', 4), ('w', 2), ('x', 1)]

def allRights : Nat := 0o777

def symbolicMask (mask : Nat) : Text :=
  let parts := userPlaces.map fun (user, place) =>
    user :: '=' :: (rightBits.filter fun (_, bit) => (mask / place) &&& bit == 0).map Prod.fst
  Text.joined [','] parts

/-- What a letter of a change to a mode stands for, in one digit. -/
def rightsOf (mode : Nat) (letter : Char) : Nat :=
  match rightBits.find? fun r => r.1 == letter with
  | some (_, bit) => bit
  | none =>
    match userPlaces.find? fun u => u.1 == letter with
    | some (_, place) => mode / place
    | none => if letter = 'X' ∧ mode &&& 0o111 ≠ 0 then 1 else 0

def isChange (c : Char) : Bool := ['=', '+', '-'].contains c

/-- A mode after the changes that a text says, of which there are so many at most, and
what it says no change in. `before` is the mode before all of them. -/
def changedMode (before : Nat) : Nat → Nat → Nat → Text → Nat × Text
  | 0, _, mode, t => (mode, t)
  | _ + 1, _, mode, [] => (mode, [])
  | limit + 1, users, mode, t =>
    let named := t.takeWhile fun c => ['a', 'u', 'g', 'o'].contains c
    let users := named.foldl (fun users c =>
      users ||| (if c = 'a' then 0o111
        else ((userPlaces.find? fun u => u.1 == c).map Prod.snd).getD 0)) users
    let users := if users = 0 then 0o111 else users
    match t.drop named.length with
    | [] => (mode, [])
    | sign :: after =>
      if !(isChange sign) then (mode, sign :: after)
      else
        let letters := after.takeWhile fun c => "rwxugoXs".toList.contains c
        let digit := letters.foldl (fun bits c => bits ||| rightsOf before c) 0 &&& 7
        let bits := digit * users
        let mode :=
          if sign = '-' then mode &&& (allRights - bits)
          else if sign = '+' then mode ||| bits
          else bits ||| (mode &&& (allRights - users * 7))
        match after.drop letters.length with
        | ',' :: rest => changedMode before limit 0 mode rest
        | c :: rest =>
          if isChange c then changedMode before limit users mode (c :: rest)
          else (mode, c :: rest)
        | [] => (mode, [])

/-- Shows or sets the rights that new files do not get. -/
def umask (arguments : List Text) : Action Outcome := do
  let (switches, arguments) ← Switches.take ['S'] arguments
  let s ← get
  match arguments with
  | [] =>
    if !switches.isEmpty then return .printed (symbolicMask s.mask ++ ['\n'])
    else
      let digits := Nat.toDigits 8 s.mask
      return .printed (List.replicate (4 - digits.length) '0' ++ digits ++ ['\n'])
  | wanted :: _ =>
    if (wanted.head?.map Numeral.isDigit) = some true then
      if wanted.all (Integer.isDigitOf 8) then
        set { s with mask := Integer.value 8 wanted &&& allRights }
        return .ended 0
      else Action.failNumber wanted
    else
      let mode := allRights - s.mask
      let (changed, rest) := changedMode mode (wanted.length + 1) 0 mode wanted
      if rest.isEmpty then
        set { s with mask := allRights - changed }
        return .ended 0
      else Action.fail ("Illegal mode: ".toList ++ wanted)

def limits : List (Char × String × String) :=
  [('t', "time(seconds)", "unlimited"), ('f', "file(blocks)", "unlimited"),
    ('d', "data(kbytes)", "unlimited"), ('s', "stack(kbytes)", "8192"),
    ('c', "coredump(blocks)", "0"), ('m', "memory(kbytes)", "unlimited"),
    ('l', "locked memory(kbytes)", "8192"), ('p', "process", "unlimited"),
    ('n', "nofiles", "20000"), ('v', "vmemory(kbytes)", "unlimited"),
    ('w', "locks", "unlimited"), ('r', "rtprio", "0")]

/-- Shows limits. One that is set has no effect here. -/
def ulimit (arguments : List Text) : Action Outcome := do
  let (switches, arguments) ← Switches.take "HSatfdscmlpnvwr".toList arguments
  let letters := (switches.map Switch.letter).filter fun c => c != 'H' && c != 'S'
  match arguments with
  | [] =>
    if letters.contains 'a' then
      return .printed (limits.flatMap fun (_, name, value) =>
        let name := name.toList
        name ++ List.replicate (20 - name.length) ' ' ++ ' ' :: value.toList ++ ['\n'])
    else
      let shown := limits.find? fun l => l.1 == letters.getLast?.getD 'f'
      return .printed ((shown.map fun l => l.2.2.toList).getD [] ++ ['\n'])
  | [wanted] =>
    if letters.contains 'a' then Action.fail "too many arguments".toList
    else if wanted = "unlimited".toList || (!wanted.isEmpty && wanted.all Numeral.isDigit) then
      return .ended 0
    else Action.fail "bad number".toList
  | _ => Action.fail "too many arguments".toList

end DiskPrep.Machine.Shell.Builtin
