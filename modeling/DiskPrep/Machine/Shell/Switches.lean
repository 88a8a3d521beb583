import DiskPrep.Machine.Shell.Process

/-!
Arguments of the commands that are part of the language: letters after a minus sign,
of which some take a word; and what such a command comes to.
-/
namespace DiskPrep.Machine.Shell

/-- What a command that is part of the language comes to. Its output is written at its
end. -/
structure Outcome where
  status : Nat
  output : Text
  flow : Flow
  deriving DecidableEq, Repr

namespace Outcome

def ended (status : Nat) : Outcome := ⟨status, [], .next⟩

def printed (output : Text) : Outcome := ⟨0, output, .next⟩

end Outcome

/-- A letter that was given, with its word if it takes one. -/
structure Switch where
  letter : Char
  word : Text
  deriving DecidableEq, Repr

namespace Switches

/-- The place of a letter among those allowed: none if it is not, otherwise whether it
takes a word, which a colon after it says. -/
def takesWord? (allowed : Text) (letter : Char) : Option Bool :=
  match allowed with
  | [] => none
  | c :: rest =>
    let takes := rest.head? == some ':'
    if c = letter then some takes
    else takesWord? (if takes then rest.drop 1 else rest) letter
termination_by allowed.length
decreasing_by
  simp only [List.length_cons]
  split
  · simp only [List.length_drop]; omega
  · omega

/-- The switches in some letters, up to one that is not allowed, and the arguments after
them or what is wrong. -/
def ofLetters (allowed : Text) (rest : List Text) :
    Text → List Switch × Except Text (List Text)
  | [] => ([], .ok rest)
  | c :: letters =>
    match takesWord? allowed c with
    | none => ([], .error ("Illegal option -".toList ++ [c]))
    | some false =>
      let (switches, result) := ofLetters allowed rest letters
      (⟨c, []⟩ :: switches, result)
    | some true =>
      match letters, rest with
      | _ :: _, rest => ([⟨c, letters⟩], .ok rest)
      | [], word :: rest => ([⟨c, word⟩], .ok rest)
      | [], [] => ([], .error ("No arg for -".toList ++ c :: " option".toList))

/-- The switches at the start of arguments, of which there are so many at most, and
what comes after them or what is wrong. -/
def read (allowed : Text) : Nat → List Text → List Switch × Except Text (List Text)
  | 0, arguments => ([], .ok arguments)
  | limit + 1, arguments =>
    match arguments with
    | ['-', '-'] :: rest => ([], .ok rest)
    | ('-' :: c :: letters) :: rest =>
      match ofLetters allowed rest (c :: letters) with
      | (switches, .ok rest) =>
        let (more, result) := read allowed limit rest
        (switches ++ more, result)
      | (switches, .error what) => (switches, .error what)
    | arguments => ([], .ok arguments)

/-- The switches of a command, each given to an action in turn, and the arguments after
them. It fails where there are others. -/
def takeEach (allowed : Text) (arguments : List Text) (action : Switch → Action Unit) :
    Action (List Switch × List Text) := do
  let (switches, result) := read allowed (arguments.length + 1) arguments
  switches.forM action
  match result with
  | .ok rest => return (switches, rest)
  | .error what => Action.fail what

def take (allowed : Text) (arguments : List Text) : Action (List Switch × List Text) :=
  takeEach allowed arguments fun _ => return ()

/-- Whether the arguments begin with one of the letters. No other is allowed there, and
what follows is not looked at. -/
def beginsWith (letters : Text) (arguments : List Text) : Action Bool :=
  match arguments with
  | ('-' :: c :: _) :: _ =>
    if letters.contains c then return true
    else if c = '-' then return false
    else Action.fail ("Illegal option -".toList ++ [c])
  | _ => return false

def none (arguments : List Text) : Action (List Text) := do
  return (← take [] arguments).2

end Switches

/-- A text in quotes, so that a script may read it back. -/
def quoteWithin : Nat → Text → Text
  | 0, _ => []
  | limit + 1, t =>
    let isQuote (c : Char) : Bool := c == singleQuote
    let start := singleQuote :: t.takeWhile (!isQuote ·) ++ [singleQuote]
    let rest := t.dropWhile (!isQuote ·)
    match rest.takeWhile isQuote with
    | [] => start
    | quotes =>
      let after := rest.dropWhile isQuote
      start ++ '"' :: quotes ++ '"' :: (if after.isEmpty then [] else quoteWithin limit after)

def quoted (t : Text) : Text := quoteWithin (t.length + 1) t

end DiskPrep.Machine.Shell
