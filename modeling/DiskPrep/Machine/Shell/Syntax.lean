import DiskPrep.Text.Numeral

/-!
Tool scripts as data. A script is text whose characters are bytes. A word keeps
what was quoted in it apart from what was not, because only the latter is split
into fields and read as a pattern.
-/
namespace DiskPrep.Machine.Shell

/-- What is asked of a parameter. The flag of the conditional forms says that an
empty value counts as none. -/
inductive Form where
  | value
  | length
  /-- Nothing that can be asked. -/
  | invalid
  /-- The word where there is no value. -/
  | default (emptyToo : Bool)
  /-- The word, which becomes the value, where there is none. -/
  | assign (emptyToo : Bool)
  /-- A complaint where there is no value. -/
  | require (emptyToo : Bool)
  /-- The word where there is a value. -/
  | instead (emptyToo : Bool)
  /-- The value less a beginning that fits the word. -/
  | cutStart (longest : Bool)
  /-- The value less an end that fits the word. -/
  | cutEnd (longest : Bool)
  deriving DecidableEq, Repr

inductive Access where
  | read
  | truncate
  /-- Truncates also where files are protected. -/
  | overwrite
  | append
  | update
  deriving DecidableEq, Repr

mutual

inductive WordPart where
  /-- A character that was not quoted. -/
  | plain (c : Char)
  /-- A character that stands for itself. -/
  | quoted (c : Char)
  /-- What stands between two quotes. -/
  | group (parts : List WordPart)
  | parameter (name : Text) (form : Form) (word : List WordPart)
  /-- The output of a command. -/
  | output (body : Command)
  /-- The value of an integer expression. -/
  | arithmetic (expression : List WordPart)

inductive Target where
  | file (access : Access) (path : List WordPart)
  | descriptor (number : Nat)
  | closed
  /-- A descriptor that is known only after expansion. -/
  | named (word : List WordPart)
  /-- The text of this number. -/
  | document (number : Nat)

/-- A command of a script. Numbers say on which line it stands. -/
inductive Command where
  | nothing
  | simple (line : Nat) (assignments : List (Text × List WordPart))
      (words : List (List WordPart)) (redirections : List (Nat × Target))
  | redirected (line : Nat) (body : Command) (redirections : List (Nat × Target))
  | sequence (first second : Command)
  | both (first second : Command)
  | either (first second : Command)
  | negated (body : Command)
  | pipeline (parts : List Command)
  | subshell (line : Nat) (body : Command) (redirections : List (Nat × Target))
  | background (body : Command)
  | branch (condition yes no : Command)
  /-- Repeats while the condition ends as wanted. -/
  | loop (wanted : Bool) (condition body : Command)
  | forEach (line : Nat) (name : Text) (words : List (List WordPart)) (body : Command)
  | choose (line : Nat) (subject : List WordPart)
      (arms : List (List (List WordPart) × Command))
  | define (name : Text) (body : Command)

end

abbrev Word := List WordPart

abbrev Redirection := Nat × Target

namespace WordPart

def plain? : WordPart → Option Char
  | plain c => some c
  | _ => none

end WordPart

/-- The text of a word in which nothing was quoted or expanded. -/
def Word.plain? (word : Word) : Option Text := word.mapM WordPart.plain?

/-- The pieces of a word from the first one on that is quoted or expanded, and the
plain characters before it. -/
def Word.plainStart : Word → Text × Word
  | .plain c :: rest =>
    let (text, rest) := Word.plainStart rest
    (c :: text, rest)
  | word => ([], word)

def startsName (c : Char) : Bool := c.isAlpha || c == '_'

def inName (c : Char) : Bool := c.isAlphanum || c == '_'

def isName : Text → Bool
  | c :: rest => startsName c && rest.all inName
  | [] => false

/-- An assignment: a name, an equals sign and the rest of the word. -/
def Word.assignment? (word : Word) : Option (Text × Word) :=
  let (start, rest) := word.plainStart
  let name := start.takeWhile (· != '=')
  match start.dropWhile (· != '=') with
  | '=' :: value => if isName name then some (name, value.map .plain ++ rest) else none
  | _ => none

/-- Parameters whose name is one character that is in no name. -/
def isSpecialParameter (c : Char) : Bool :=
  ['@', '*', '#', '?', '$', '!', '-'].contains c

def singleQuote : Char := Char.ofNat 39

/-- The quote that stands around a script whose output is wanted. -/
def backQuote : Char := Char.ofNat 96

end DiskPrep.Machine.Shell
