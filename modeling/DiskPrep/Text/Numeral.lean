import DiskPrep.Text.Basic

/-!
Numerals in reports and on the command line: decimal digits after an optional
sign, of any length, refused when the value leaves the stated range. The value
is computed without a bound first, so a long numeral never wraps.
-/
namespace DiskPrep.Numeral

def byteLimit : Nat := 256

def wordLimit : Nat := 4294967296

def longLimit : Nat := 18446744073709551616

/-- A digit is one of the ten ASCII digits; other scripts' digits are not read. -/
def isDigit (c : Char) : Bool := '0' ≤ c && c ≤ '9'

def value (digits : Text) : Nat :=
  digits.foldl (fun n c => 10 * n + (c.toNat - '0'.toNat)) 0

/-- The value of a text that is one or more digits and nothing else. -/
def ofDigits? (t : Text) : Option Nat :=
  if !t.isEmpty && t.all isDigit then some (value t) else none

/-- A numeral below `bound`, with an optional plus sign. -/
def below? (bound : Nat) (t : Text) : Option Nat :=
  (ofDigits? (match t with
    | '+' :: rest => rest
    | _ => t)).filter (· < bound)

/-- A numeral from `-limit` up to but not including `limit`, with an optional
sign. -/
def signed? (limit : Nat) : Text → Option Int
  | '-' :: rest => ((ofDigits? rest).filter (· ≤ limit)).map fun n => -(n : Int)
  | t => (below? limit t).map fun n => (n : Int)

end DiskPrep.Numeral
