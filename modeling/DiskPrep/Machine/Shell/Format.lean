import DiskPrep.Machine.Shell.Real

/-!
What the two printing commands write: escapes after a backslash, and a format in
which directives take the arguments in turn. Characters are bytes.
-/
namespace DiskPrep.Machine.Shell

def letterEscape? (c : Char) : Option Char :=
  match c with
  | '\\' => some '\\'
  | 'a' => some '\x07'
  | 'b' => some '\x08'
  | 'e' => some '\x1b'
  | 'f' => some '\x0c'
  | 'n' => some '\n'
  | 'r' => some '\r'
  | 't' => some '\t'
  | 'v' => some '\x0b'
  | _ => none

/-- The byte of octal digits, of which the low eight bits count. -/
def octalByte (digits : Text) : Char := Char.ofNat (Integer.value 8 digits % 256)

/-- What an escape stands for whose backslash has been read, and the text after it. -/
def readEscape (t : Text) : Char × Text :=
  match t with
  | [] => ('\\', [])
  | c :: rest =>
    match letterEscape? c with
    | some byte => (byte, rest)
    | none =>
      let digits := (t.take 3).takeWhile (Integer.isDigitOf 8)
      if digits.isEmpty then ('\\', t) else (octalByte digits, t.drop digits.length)

/-- An escaped text up to the escape that ends all output, and whether that stood
in it. A zero may lead three octal digits. -/
def unescape : Nat → Text → Text × Bool
  | 0, t => (t, false)
  | _ + 1, [] => ([], false)
  | _ + 1, '\\' :: 'c' :: _ => ([], true)
  | limit + 1, '\\' :: rest =>
    let (byte, after) := readEscape (match rest with
      | '0' :: c :: after => if Integer.isDigitOf 8 c then c :: after else rest
      | rest => rest)
    let (more, stopped) := unescape limit after
    (byte :: more, stopped)
  | limit + 1, c :: rest =>
    let (more, stopped) := unescape limit rest
    (c :: more, stopped)

def unescaped (t : Text) : Text × Bool := unescape t.length t

def echoText (words : List Text) : Text :=
  let (words, newline) : List Text × Bool := match words with
    | ['-', 'n'] :: rest => (rest, false)
    | words => (words, true)
  let (text, stopped) := unescaped (Text.spaced words)
  if newline && !stopped then text ++ ['\n'] else text

structure Directive where
  flags : Text
  width : Nat
  precision : Option Nat
  letter : Char
  deriving DecidableEq, Repr

namespace Directive

def has (d : Directive) (flag : Char) : Bool := d.flags.contains flag

def longest : Nat := 2147483647

def isTooLong (d : Directive) : Bool := longest < d.width || longest < d.precision.getD 0

def fill (d : Directive) (t : Text) : Text :=
  let missing := List.replicate (d.width - t.length) ' '
  if d.has '-' then t ++ missing else missing ++ t

/-- A number filled to the width: with zeros after its sign or mark, or with spaces. -/
def fillNumber (d : Directive) (zeros : Bool) (start digits : Text) : Text :=
  if zeros && d.has '0' && !d.has '-' then
    start ++ List.replicate (d.width - start.length - digits.length) '0' ++ digits
  else d.fill (start ++ digits)

def cut (d : Directive) (t : Text) : Text :=
  match d.precision with
  | some n => t.take n
  | none => t

def sign (d : Directive) (negative : Bool) : Text :=
  if negative then ['-'] else if d.has '+' then ['+'] else if d.has ' ' then [' '] else []

def isUnsigned (d : Directive) : Bool := ['u', 'o', 'x', 'X'].contains d.letter

def integerText (d : Directive) (n : Int) : Text :=
  let base := if d.letter = 'o' then 8 else if d.letter = 'x' ∨ d.letter = 'X' then 16 else 10
  let digits : Text := if n = 0 ∧ d.precision = some 0 then [] else Nat.toDigits base n.natAbs
  let digits := List.replicate (d.precision.getD 0 - digits.length) '0' ++ digits
  let digits :=
    if d.has '#' ∧ d.letter = 'o' ∧ digits.head? ≠ some '0' then '0' :: digits else digits
  let start : Text :=
    if d.isUnsigned then
      if d.has '#' && base == 16 && n != 0 then ['0', 'x'] else []
    else d.sign (n < 0)
  let text := d.fillNumber d.precision.isNone start digits
  if d.letter = 'X' then text.map Char.toUpper else text

def realText (d : Directive) (negative : Bool) (x : Binary) : Text :=
  let digits := Real.magnitudeText ⟨d.letter.toLower, d.precision, d.has '#'⟩ x
  let text := match d.letter.toLower, digits with
    | 'a', '0' :: 'x' :: rest =>
      d.fillNumber (Real.isFinite x) (d.sign negative ++ ['0', 'x']) rest
    | _, digits => d.fillNumber (Real.isFinite x) (d.sign negative) digits
  if d.letter.isUpper then text.map Char.toUpper else text

end Directive

structure Printing where
  arguments : List Text
  /-- What has been written, the last character first. -/
  written : Text
  /-- What is wrong with the arguments, the last complaint first. -/
  complaints : List Text
  /-- Output ends here. -/
  stopped : Bool
  /-- The format asks for something that there is not. -/
  refusal : Option Text

namespace Printing

def write (p : Printing) (t : Text) : Printing := { p with written := t.reverse ++ p.written }

def next (p : Printing) : Option Text × Printing :=
  (p.arguments.head?, { p with arguments := p.arguments.drop 1 })

/-- The complaint about an argument of which not all, or too much, was a number. -/
def check (p : Printing) (argument rest : Text) (fits : Bool) : Printing :=
  let complain (why : Text) : Printing :=
    { p with complaints := (argument ++ ": ".toList ++ why) :: p.complaints }
  if !rest.isEmpty then
    complain (if rest.length = argument.length then "expected numeric value".toList
      else "not completely converted".toList)
  else if !fits then complain "Numerical result out of range".toList
  else p

def quotedCode? : Text → Option Nat
  | q :: rest =>
    if q = '"' ∨ q = Char.ofNat 39 then some (rest.headD '\x00').toNat else none
  | [] => none

/-- The next argument as an integer; zero where there is none. -/
def integer (p : Printing) (range : Integer.Range) : Int × Printing :=
  match p.next with
  | (none, p) => (0, p)
  | (some argument, p) =>
    match quotedCode? argument with
    | some code => (code, p)
    | none =>
      let n := Integer.read range true argument
      (n.value, p.check argument n.rest n.fits)

/-- The next argument as a number with a fraction, after whether it is negative. -/
def real (p : Printing) : Bool × Binary × Printing :=
  match p.next with
  | (none, p) => (false, binary64.zero false, p)
  | (some argument, p) =>
    match quotedCode? argument with
    | some code => (false, binary64.ofNat code, p)
    | none =>
      let n := Real.read argument
      (n.negative, n.value, p.check argument n.rest n.fits)

/-- A count in a directive: digits, or the next argument after a star. -/
def count (p : Printing) (t : Text) : Option Int × Text × Printing :=
  match t with
  | '*' :: rest =>
    let (n, p) := p.integer Integer.long
    (some (Int.bmod n Numeral.wordLimit), rest, p)
  | t =>
    let digits := t.takeWhile Numeral.isDigit
    (if digits.isEmpty then none else some (Numeral.value digits : Nat),
      t.dropWhile Numeral.isDigit, p)

def isFlag (c : Char) : Bool := ['#', '-', '+', ' ', '0'].contains c

/-- A directive whose percent sign has been read, without its letter, and the
format from there on. -/
def directive (p : Printing) (t : Text) : Directive × Text × Printing :=
  let flags := t.takeWhile isFlag
  let (width, t, p) := p.count (t.dropWhile isFlag)
  let width := width.getD 0
  let flags := if width < 0 then '-' :: flags else flags
  match t with
  | '.' :: t =>
    let (precision, t, p) := p.count t
    let precision := precision.getD 0
    (⟨flags, width.natAbs, if precision < 0 then none else some precision.toNat, ' '⟩, t, p)
  | t => (⟨flags, width.natAbs, none, ' '⟩, t, p)

/-- Writes what a directive makes of the next argument; none if its letter asks for
nothing. -/
def follow? (p : Printing) (d : Directive) : Option Printing :=
  match d.letter with
  | 's' =>
    let (argument, p) := p.next
    some (p.write (d.fill (d.cut (argument.getD []))))
  | 'b' =>
    let (argument, p) := p.next
    let (text, stopped) := unescaped (argument.getD [])
    some { p.write (d.fill (d.cut text)) with stopped := stopped }
  | 'c' =>
    let (argument, p) := p.next
    some (p.write (d.fill [(argument.getD []).headD '\x00']))
  | letter =>
    if letter = 'd' ∨ letter = 'i' then
      let (n, p) := p.integer Integer.long
      some (p.write (d.integerText n))
    else if d.isUnsigned then
      let (n, p) := p.integer Integer.unsignedLong
      some (p.write (d.integerText n))
    else if ['f', 'F', 'e', 'E', 'g', 'G', 'a', 'A'].contains letter then
      let (negative, x, p) := p.real
      some (p.write (d.realText negative x))
    else none

/-- The same, but no text that is too long is written: the format is refused, after its
argument has been read. -/
def followWithin? (p : Printing) (d : Directive) : Option Printing :=
  if !d.isTooLong then p.follow? d
  else (p.follow? { d with width := 0, precision := none }).map fun after =>
    { after with
      written := p.written
      stopped := false
      refusal := some "xvsnprintf failed".toList }

def pass : Nat → Text → Printing → Printing
  | 0, _, p => p
  | _ + 1, [], p => p
  | limit + 1, '\\' :: rest, p =>
    let (byte, rest) := readEscape rest
    pass limit rest (p.write [byte])
  | limit + 1, '%' :: '%' :: rest, p => pass limit rest (p.write ['%'])
  | limit + 1, '%' :: rest, p =>
    match p.directive rest with
    | (_, [], p) => { p with refusal := some "missing format character".toList }
    | (d, letter :: after, p) =>
      match p.followWithin? { d with letter := letter } with
      | some p => if p.stopped || p.refusal.isSome then p else pass limit after p
      | none =>
        let shown := '%' :: rest.take (rest.length - after.length)
        { p with refusal := some (shown ++ ": invalid directive".toList) }
  | limit + 1, c :: rest, p => pass limit rest (p.write [c])

/-- Passes over a format until no argument is left, or a pass takes none. -/
def passes (format : Text) : Nat → Printing → Printing
  | 0, p => p
  | limit + 1, p =>
    let after := pass format.length format p
    if after.stopped || after.refusal.isSome || after.arguments.isEmpty ||
        after.arguments.length == p.arguments.length then after
    else passes format limit after

def run (format : Text) (arguments : List Text) : Printing :=
  passes format (arguments.length + 1) ⟨arguments, [], [], false, none⟩

end Printing

end DiskPrep.Machine.Shell
