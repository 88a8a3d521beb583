import DiskPrep.Machine.Shell.Arithmetic
import DiskPrep.Machine.Shell.Glob
import DiskPrep.Machine.Shell.Process

/-!
Expansion of words. Parameters, outputs and expressions are put in their places; the
result is fields for a command, or one text where only one is wanted. A word that is
not needed is not looked at.
-/
namespace DiskPrep.Machine.Shell

structure Place where
  /-- Fields are wanted. -/
  full : Bool
  /-- It stands in quotes. -/
  quoted : Bool
  /-- It stands between the braces of a parameter, where plain text is split as well. -/
  inBraces : Bool
  /-- A tilde after a colon means a directory. -/
  assigns : Bool
  deriving DecidableEq, Repr

namespace Place

def field : Place := ⟨true, false, false, false⟩

def single : Place := ⟨false, false, false, false⟩

def value : Place := ⟨false, false, false, true⟩

def document : Place := ⟨false, true, false, false⟩

def cells (p : Place) (t : Text) : List Cell := t.map (if p.quoted then .quoted else .plain)

def segment (p : Place) (cells : List Cell) : Segment :=
  ⟨if p.quoted then .whole else .split, cells⟩

end Place

/-- The characters of a word, as far as they follow each other plainly, and the
pieces between them. -/
def Word.runs (w : Word) : List (Text ⊕ WordPart) :=
  w.foldr (fun part runs => match part, runs with
    | .plain c, .inl t :: rest => .inl (c :: t) :: rest
    | .plain c, runs => .inl [c] :: runs
    | part, runs => .inr part :: runs) []

namespace Expansion

def standardUsers : List (String × String) :=
  [("root", "/root"), ("daemon", "/usr/sbin"), ("bin", "/bin"), ("sys", "/dev"),
    ("sync", "/bin"), ("games", "/usr/games"), ("man", "/var/cache/man"),
    ("lp", "/var/spool/lpd"), ("mail", "/var/mail"), ("news", "/var/spool/news"),
    ("uucp", "/var/spool/uucp"), ("proxy", "/bin"), ("www-data", "/var/www"),
    ("backup", "/var/backups"), ("list", "/var/list"), ("nobody", "/nonexistent")]

/-- The directory of a user; of the one at work where there is no name. -/
def homeOf? (s : State) (name : Text) : Option Text :=
  if name.isEmpty then s.valueOf? "HOME".toList
  else (standardUsers.find? fun user => user.1.toList == name).map fun user => user.2.toList

/-- A word with the directory that a tilde at its start means. -/
def withHome (s : State) (assigns : Bool) (w : Word) : Word :=
  match w with
  | .plain '~' :: after =>
    let (start, _) := Word.plainStart after
    let name := start.takeWhile fun c => c != '/' && !(assigns && c == ':')
    let rest := after.drop name.length
    let ends := match rest with
      | [] => true
      | .plain _ :: _ => true
      | _ => false
    match (if ends then homeOf? s name else none) with
    | some home => home.map .quoted ++ rest
    | none => w
  | w => w

/-- A word with the directories that tildes mean: one at its start and, in an
assignment, one after each colon. -/
def withHomes (s : State) (assigns : Bool) (w : Word) : Word :=
  if assigns then
    w.foldr (fun part w => match part with
      | .plain ':' => part :: withHome s true w
      | part => part :: w) [] |> withHome s true
  else withHome s false w

/-- All arguments as one value, with what stands between two of them at this place. -/
def joinedArguments (s : State) (place : Place) (separately : Bool) : List Cell :=
  let separator : Text :=
    if place.full && (separately || !place.quoted) then
      if place.quoted || (s.valueOf? "IFS".toList).isSome then [Field.argumentEnd] else [' ']
    else s.separators.take 1
  let listed := place.full && (separately || !place.quoted)
  let separator := separator.map fun c => if listed || !place.quoted then Cell.plain c else .quoted c
  separator.intercalate (s.arguments.map place.cells)

def optionLetters (s : State) : Text :=
  ("efIimnsxvVECabup".toList.filter s.isOn).reverse

def valueOf? (s : State) (name : Text) : Option Text :=
  if name.all Numeral.isDigit then
    match Numeral.value name with
    | 0 => some s.scriptName
    | n + 1 => s.arguments[n]?
  else match name with
    | ['#'] => some (decimal s.arguments.length)
    | ['?'] => some (decimal s.status)
    | ['$'] => some (decimal s.number)
    | ['!'] => s.lastJob.map decimal
    | ['-'] => some (optionLetters s)
    | name => s.valueOf? name

def cellsOf? (s : State) (place : Place) (name : Text) : Option (List Cell) :=
  if name = ['@'] then some (joinedArguments s place true)
  else if name = ['*'] then some (joinedArguments s place false)
  else (valueOf? s name).map place.cells

/-- Takes the output of a command: its line feeds at the end do not count, and
neither do zeros. -/
def outputOf (run : Runner) (body : Command) : Action Text := do
  match body with
  | .nothing => return []
  | body =>
    let (exit?, text) ← Action.waitedFor (Action.collect run Action.longTime (run body false))
    let status ← Action.statusOf (exit?.getD (.signal Signal.kill))
    modify fun s => { s with outputStatus := status }
    return Text.dropEndWhile (· == '\n') (text.filter (· != '\x00'))

/-- A text without the bytes by which quotes are marked inside of words. One of them
keeps the byte after it. -/
def withoutMarks : Text → Text
  | [] => []
  | '\x81' :: c :: rest => c :: withoutMarks rest
  | c :: rest => if c = '\x81' || c = '\x88' then withoutMarks rest else c :: withoutMarks rest

def arithmetic (t : Text) : Action Text := do
  let s ← get
  match Arithmetic.evaluate (fun name => (s.valueOf? name).getD []) t with
  | .ok (n, assignments) =>
    assignments.forM fun (name, value) => Action.assign name (signedDecimal value)
    return signedDecimal n
  | .error (.reason reason) =>
    Action.fail ("arithmetic expression: ".toList ++ reason ++ ": \"".toList ++ t ++ ['"'])
  | .error (.noInteger value) => Action.failNumber value

/-- The cells without a start, or an end, that fits a pattern. -/
def cut (form : Form) (pattern : Text) (cells : List Cell) : List Cell :=
  let text := Cell.text cells
  match form with
  | .cutStart longest =>
    match Pattern.startThatFits? pattern longest text with
    | some n => cells.drop n
    | none => cells
  | .cutEnd longest =>
    match Pattern.endThatFits? pattern longest text with
    | some n => cells.take n
    | none => cells
  | _ => cells

def missing {α : Type} (name : Text) (why : Text) : Action α :=
  Action.fail (name ++ ": ".toList ++ why)

/-- Why a parameter is missing, where the script does not say it. -/
def notSet : Text := "parameter not set".toList

/-- The word that all arguments make, each of them a field, where they are quoted. -/
def isAllArguments : List WordPart → Bool
  | [.parameter ['@'] .value []] => true
  | _ => false

/-- A part of a word, expanded. Parts stand in one another so deeply at most. -/
def part (run : Runner) : Nat → Place → WordPart → Action (List Segment)
  | 0, _, _ => throw (.killed 11)
  | limit + 1, place, p => do
    let inner (place : Place) (w : Word) : Action (List Segment) := do
      let parts ← w.runs.mapM fun
        | .inl text =>
          let cells := place.cells text
          return [⟨if place.inBraces && !place.quoted then .split else .whole, cells⟩]
        | .inr p => part run limit place p
      return parts.flatten
    let word (place : Place) (w : Word) : Action (List Segment) := do
      inner place (withHomes (← get) place.assigns w)
    let textOf (w : Word) : Action (List Cell) := do
      return (← word .single w).flatMap (·.cells)
    match p with
    | .plain c => return [⟨.whole, place.cells [c]⟩]
    | .quoted c => return [⟨.whole, [.quoted c]⟩]
    | .group parts =>
      let quoted := { place with quoted := true }
      if !place.quoted && isAllArguments parts then inner quoted parts
      else return ⟨.whole, [.mark]⟩ :: (← inner quoted parts) ++ [⟨.whole, [.mark]⟩]
    | .output body => return [place.segment (place.cells (← outputOf run body))]
    | .arithmetic expression =>
      let text := Cell.text ((← inner .single expression).flatMap (·.cells))
      let text := if place.full then withoutMarks text else text
      return [place.segment (place.cells (← arithmetic text))]
    | .parameter name form w =>
      let s ← get
      let value? := cellsOf? s place name
      let put (cells : List Cell) : List Segment :=
        if place.quoted && name.head? == some '@' && !s.arguments.isEmpty then [⟨.listed, cells⟩]
        else [place.segment cells]
      let isMissing (emptyToo : Bool) : Bool := value?.all fun cells => emptyToo && cells.isEmpty
      let value : Action (List Cell) :=
        match value? with
        | some cells => return cells
        | none => if s.isOn 'u' then missing name notSet else return []
      let inBraces := { place with inBraces := true }
      match form with
      | .invalid => Action.fail "Bad substitution".toList
      | .value => return put (← value)
      | .length => return put (place.cells (decimal (← value).length))
      | .default emptyToo =>
        if isMissing emptyToo then word inBraces w else return put (value?.getD [])
      | .instead emptyToo => if isMissing emptyToo then return [] else word inBraces w
      | .assign emptyToo =>
        if isMissing emptyToo then
          Action.assign name (Cell.text (← textOf w))
          return put ((cellsOf? (← get) place name).getD [])
        else return put (value?.getD [])
      | .require emptyToo =>
        if isMissing emptyToo then
          if w.isEmpty then missing name (notSet ++ if emptyToo then " or null".toList else [])
          else missing name (Cell.text (← textOf w))
        else return put (value?.getD [])
      | form =>
        let cells ← value
        if value?.isNone then return []
        else return put (cut form (Cell.pattern (← textOf w)) cells)

def segments (run : Runner) (place : Place) (w : Word) : Action (List Segment) := do
  let s ← get
  let w := if place.quoted then w else withHomes s place.assigns w
  let parts ← w.runs.mapM fun
    | .inl text => return [⟨.whole, place.cells text⟩]
    | .inr p => part run depthLimit place p
  return parts.flatten

/-- The fields that a word makes, each of which is a path if it is a pattern. -/
def fields (run : Runner) (w : Word) : Action (List Text) := do
  let parts ← segments run .field w
  let s ← get
  return (Field.split s.separators none parts).flatMap (Glob.words s)

def allFields (run : Runner) (words : List Word) : Action (List Text) := do
  return (← words.mapM (fields run)).flatten

def cells (run : Runner) (place : Place) (w : Word) : Action (List Cell) := do
  return (← segments run place w).flatMap (·.cells)

def text (run : Runner) (place : Place) (w : Word) : Action Text := do
  return Cell.text (← cells run place w)

def pattern (run : Runner) (w : Word) : Action Text := do
  return Cell.pattern (← cells run .single w)

/-- The text that a variable holds for what is shown to users, expanded. -/
def shownText (run : Runner) (name : Text) : Action Text := do
  let start := ((← get).valueOf? name).getD []
  match Source.quotedText (Source.start start 1 0 []) with
  | .ok word => text run .document word
  | .error _ => return start

end Expansion

end DiskPrep.Machine.Shell
