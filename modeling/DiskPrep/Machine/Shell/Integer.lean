import DiskPrep.Machine.Shell.Pattern

/-!
Integers as tools read them: blanks, a sign and digits, in a base that the digits
may say themselves. What does not fit is the nearest integer that does.
-/
namespace DiskPrep.Machine.Shell.Integer

structure Range where
  least : Int
  greatest : Int
  deriving DecidableEq, Repr

def long : Range := ⟨-9223372036854775808, 9223372036854775807⟩

def unsignedLong : Range := ⟨0, 18446744073709551615⟩

def isSpace (c : Char) : Bool := c == ' ' || Pattern.isBetween 9 13 c

/-- The value of a digit or letter; what is neither has none. -/
def digit? (c : Char) : Option Nat :=
  if Numeral.isDigit c then some (c.toNat - '0'.toNat)
  else if c.isAlpha then some (c.toLower.toNat - 'a'.toNat + 10)
  else none

def isDigitOf (base : Nat) (c : Char) : Bool := (digit? c).any (· < base)

def value (base : Nat) (digits : Text) : Nat :=
  digits.foldl (fun n c => base * n + (digit? c).getD 0) 0

/-- The base that a text says in its first characters, and the text after them. -/
def base (t : Text) : Nat × Text :=
  match t with
  | '0' :: mark :: c :: rest =>
    if (mark = 'x' ∨ mark = 'X') ∧ isDigitOf 16 c then (16, c :: rest)
    else (8, t)
  | '0' :: _ => (8, t)
  | _ => (10, t)

structure Numeral where
  value : Int
  /-- The value fits without a change. -/
  fits : Bool
  rest : Text
  deriving DecidableEq, Repr

/-- The integer at the start of a text, in base ten or in the base that it says
itself. Nothing is read where there are no digits. A negative integer that cannot
be negative counts down from the greatest. -/
def read (range : Range) (saysBase : Bool) (t : Text) : Numeral :=
  let body := t.dropWhile isSpace
  let (negative, body) : Bool × Text := match body with
    | '-' :: rest => (true, rest)
    | '+' :: rest => (false, rest)
    | rest => (false, rest)
  let (base, body) := if saysBase then base body else (10, body)
  let digits := body.takeWhile (isDigitOf base)
  let rest := body.dropWhile (isDigitOf base)
  let n : Int := (value base digits : Nat)
  if digits.isEmpty then ⟨0, true, t⟩
  else if range.least = 0 then
    if range.greatest < n then ⟨range.greatest, false, rest⟩
    else ⟨if negative ∧ n ≠ 0 then range.greatest + 1 - n else n, true, rest⟩
  else
    let n := if negative then -n else n
    if n < range.least then ⟨range.least, false, rest⟩
    else if range.greatest < n then ⟨range.greatest, false, rest⟩
    else ⟨n, true, rest⟩

/-- The integer that a text is, with blanks around it. Only where the text may say
its base may it also be blank, and is zero then. -/
def ofText? (saysBase : Bool) (t : Text) : Option Int :=
  let numeral := read long saysBase t
  let nothing := numeral.rest.length == t.length
  if numeral.fits && (saysBase || !nothing) && numeral.rest.all isSpace then some numeral.value
  else none

/-- The number that a text is, below the bound of 31 bits. -/
def natOfText? (t : Text) : Option Nat :=
  ((ofText? false t).filter fun n => 0 ≤ n && n ≤ 2147483647).map Int.toNat

end DiskPrep.Machine.Shell.Integer
