import DiskPrep.Machine.Shell.Syntax

/-!
A script while it is read: what is left of it, the line that has been reached, one
token that was read too early, and the texts that the line announces. Reading
stops at the first fault, which names its line.
-/
namespace DiskPrep.Machine.Shell

inductive Token where
  | ending
  | newline
  | operator (text : Text)
  /-- A word that means something where a command may begin. -/
  | reserved (text : Text)
  /-- A word, and whether something in it was quoted. -/
  | word (parts : Word) (quoted : Bool)
  /-- A redirection, with the descriptor before it. -/
  | redirection (descriptor : Option Nat) (text : Text)

def Token.description : Token → Text
  | ending => "end of file".toList
  | newline => "newline".toList
  | operator text => '"' :: text ++ ['"']
  | reserved text => '"' :: text ++ ['"']
  | word .. => "word".toList
  | redirection .. => "redirection".toList

/-- A text that is announced and follows after the line. -/
structure Announcement where
  number : Nat
  delimiter : Text
  withoutTabs : Bool
  expands : Bool

/-- A name that is being read as something else. -/
structure Substitute where
  name : Text
  /-- How much of the script is left where its text ends. -/
  left : Nat
  /-- The word after it may be such a name as well. -/
  goesOn : Bool

structure Source where
  rest : Text
  line : Nat
  pushedBack : Option Token
  announced : List Announcement
  /-- The texts that were announced and read. -/
  documents : List (Nat × Word)
  nextDocument : Nat
  /-- Names that are read as something else. -/
  aliases : List (Text × Text)
  substitutes : List Substitute

structure SyntaxError where
  line : Nat
  reason : Text
  /-- What has not been read. -/
  left : Text
  deriving DecidableEq, Repr

abbrev Reading := StateT Source (Except SyntaxError)

namespace Reading

def fault {α : Type} (reason : Text) : Reading α := do
  let s ← get
  throw ⟨s.line, reason, s.rest⟩

def unexpected {α : Type} (token : Token) (wanted : Option Token) : Reading α :=
  fault (token.description ++ " unexpected".toList ++ match wanted with
    | some wanted => " (expecting ".toList ++ wanted.description ++ [')']
    | none => [])

def rest : Reading Text := return (← get).rest

/-- Goes on by so many characters; the line feeds among them count. -/
def skip (n : Nat) : Reading Unit :=
  modify fun s => { s with rest := s.rest.drop n, line := s.line + (s.rest.take n).count '\n' }

/-- A line feed after a backslash is no part of the script. -/
def skipContinuations : Nat → Reading Unit
  | 0 => return ()
  | limit + 1 => do
    match ← rest with
    | '\\' :: '\n' :: _ =>
      skip 2
      skipContinuations limit
    | _ => return ()

def peek : Reading (Option Char) := do
  skipContinuations (← rest).length
  return (← rest).head?

def accept (c : Char) : Reading Bool := do
  if (← peek) = some c then
    skip 1
    return true
  else return false

def takeWhile (p : Char → Bool) : Nat → Reading Text
  | 0 => return []
  | limit + 1 => do
    match ← peek with
    | some c =>
      if p c then
        skip 1
        return c :: (← takeWhile p limit)
      else return []
    | none => return []

def pushBack (token : Token) : Reading Unit :=
  modify fun s => { s with pushedBack := some token }

@[specialize]
def repeatUntil {α β : Type} (step : α → Reading (α ⊕ β)) : Nat → α → Reading β
  | 0, _ => fault "Out of space".toList
  | limit + 1, a => do
    match ← step a with
    | .inl a => repeatUntil step limit a
    | .inr b => return b

def limit : Nat := 10000000

end Reading

end DiskPrep.Machine.Shell
