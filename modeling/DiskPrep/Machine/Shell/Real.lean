import DiskPrep.Machine.Shell.Integer
import DiskPrep.Number.Decimal

/-!
Numbers with a fraction as tools read and write them: numbers of 64 bits, read from
decimal or hexadecimal digits and rounded once, and written from their exact value.
-/
namespace DiskPrep.Machine.Shell.Real

open Integer (isDigitOf value)

structure Numeral where
  value : Binary
  /-- It has a minus sign, which is not seen in a value that is no number. -/
  negative : Bool
  /-- The value is in the range of the numbers. -/
  fits : Bool
  rest : Text
  deriving DecidableEq, Repr

/-- The text begins with a word, whatever the case of its letters. -/
def dropWord? (word t : Text) : Option Text :=
  if (t.take word.length).map Char.toLower = word then some (t.drop word.length) else none

def exponent (mark : Char) (t : Text) : Int × Text :=
  match t with
  | c :: rest =>
    if c.toLower = mark then
      let (negative, digits) : Bool × Text := match rest with
        | '-' :: rest => (true, rest)
        | '+' :: rest => (false, rest)
        | rest => (false, rest)
      let read := digits.takeWhile Numeral.isDigit
      if read.isEmpty then (0, t)
      else
        let n : Int := (value 10 read : Nat)
        (if negative then -n else n, digits.dropWhile Numeral.isDigit)
    else (0, t)
  | [] => (0, t)

/-- Digits with a point among them: those before it, those after it, and the rest
of the text. -/
def mantissa (base : Nat) (t : Text) : Text × Text × Text :=
  let before := t.takeWhile (isDigitOf base)
  match t.dropWhile (isDigitOf base) with
  | '.' :: rest =>
    let after := rest.takeWhile (isDigitOf base)
    if before.isEmpty ∧ after.isEmpty then ([], [], t)
    else (before, after, rest.dropWhile (isDigitOf base))
  | rest => (before, [], rest)

/-- The number nearest to `n · base ^ e`, where a power that is far out of range is
not computed. -/
def rounded (negative : Bool) (n : Nat) (base : Rat) (digits : Nat) (e : Int) : Binary :=
  if n = 0 then binary64.zero negative
  else if 5000 < e then .infinite negative
  else if e + (digits : Int) < -5000 then binary64.zero negative
  else
    let x : Rat := (n : Rat) * base ^ e
    binary64.round negative (if negative then -x else x)

/-- The number stands for the value well enough: it is finite, and no digits were
lost because it is so small. -/
def fitsValue (exact : Unit → Rat) : Binary → Bool
  | .finite s m e =>
    binary64.fieldWeight ≤ m || (m != 0 && Binary.signedValue s m e == exact ())
  | _ => false

def ofDigits (negative : Bool) (t : Text) : Option Numeral :=
  let number (base : Nat) (mark : Char) (power : Rat) (places : Nat) (t : Text) : Option Numeral :=
    let (before, after, rest) := mantissa base t
    if before.isEmpty ∧ after.isEmpty then none
    else
      let (e, rest) := exponent mark rest
      let digits := before ++ after
      let n := value base digits
      let e := e - ((places * after.length : Nat) : Int)
      let x := rounded negative n power (places * digits.length) e
      let exact (_ : Unit) : Rat := let v := (n : Rat) * power ^ e; if negative then -v else v
      some ⟨x, negative, n == 0 || fitsValue exact x, rest⟩
  match t with
  | '0' :: mark :: rest =>
    if mark = 'x' ∨ mark = 'X' then
      (number 16 'p' 2 4 rest).orElse fun _ => some ⟨binary64.zero negative, negative, true, mark :: rest⟩
    else number 10 'e' 10 1 t
  | t => number 10 'e' 10 1 t

/-- What comes after the word for no number, and after brackets with letters and digits
that may follow it. -/
def afterNoNumber (t : Text) : Text :=
  match t with
  | '(' :: inside =>
    match inside.dropWhile fun c => c.isAlphanum || c == '_' with
    | ')' :: rest => rest
    | _ => t
  | _ => t

def read (t : Text) : Numeral :=
  let body := t.dropWhile Integer.isSpace
  let (negative, body) : Bool × Text := match body with
    | '-' :: rest => (true, rest)
    | '+' :: rest => (false, rest)
    | rest => (false, rest)
  match dropWord? "infinity".toList body, dropWord? "inf".toList body, dropWord? "nan".toList body with
  | some rest, _, _ => ⟨.infinite negative, negative, true, rest⟩
  | _, some rest, _ => ⟨.infinite negative, negative, true, rest⟩
  | _, _, some rest => ⟨.nan, negative, true, afterNoNumber rest⟩
  | _, _, _ => (ofDigits negative body).getD ⟨binary64.zero false, false, true, t⟩

structure Style where
  /-- `f`, `e`, `g` or `a`. -/
  letter : Char
  precision : Option Nat
  /-- A point is written also where no digit follows it. -/
  alternative : Bool
  deriving DecidableEq, Repr

/-- The decimal exponent of a positive value after rounding to so many digits after
the first, and the digits. -/
def scientificDigits (places : Nat) (x : Rat) : Int × Nat :=
  let guess : Int :=
    if 1 ≤ x then ((decimal x.floor.toNat).length : Int) - 1
    else -((decimal (1 / x).floor.toNat).length : Int)
  let e := if tenPow (guess + 1) ≤ x then guess + 1 else if x < tenPow guess then guess - 1 else guess
  let n := nearestEven (x * tenPow ((places : Int) - e))
  if n = Nat.pow 10 (places + 1) then (e + 1, n / 10) else (e, n)

/-- An exponent of two digits at least, after its mark and sign. -/
def exponentText (mark : Char) (least : Nat) (e : Int) : Text :=
  let digits := decimal e.natAbs
  mark :: (if e < 0 then '-' else '+') :: (List.replicate (least - digits.length) '0' ++ digits)

def pointed (alternative : Bool) : Text → Text
  | [] => []
  | [c] => if alternative then [c, '.'] else [c]
  | c :: rest => c :: '.' :: rest

def fixedText (style : Style) (places : Nat) (x : Rat) : Text :=
  fixedPoint places (nearestEven (x * tenPow places)) ++
    (if places = 0 ∧ style.alternative then ['.'] else [])

def scientificText (style : Style) (places : Nat) (x : Rat) : Text :=
  let (e, n) := if x = 0 then (0, 0) else scientificDigits places x
  let digits := decimal n
  pointed style.alternative (List.replicate (places + 1 - digits.length) '0' ++ digits) ++
    exponentText 'e' 2 e

/-- Without zeros after the last digit that counts, and without a point that no
digit follows. -/
def withoutZeros (t : Text) : Text :=
  if t.contains '.' then
    let t := Text.dropEndWhile (· == '0') t
    if t.getLast? = some '.' then t.dropLast else t
  else t

/-- A value in the shorter of both ways. -/
def generalText (style : Style) (x : Rat) : Text :=
  let precision := max 1 (style.precision.getD 6)
  let e := if x = 0 then 0 else (scientificDigits (precision - 1) x).1
  if e < -4 ∨ (precision : Int) ≤ e then
    let t := scientificText style (precision - 1) x
    if style.alternative then t
    else withoutZeros (t.takeWhile (· != 'e')) ++ t.dropWhile (· != 'e')
  else
    let t := fixedText style ((precision : Int) - 1 - e).toNat x
    if style.alternative then t else withoutZeros t

/-- A number in hexadecimal digits, of which the one before the point is the first
bit of the mantissa. -/
def hexadecimalText (style : Style) (mantissa : Nat) (e : Int) : Text :=
  let all := (binary64.precision - 1) / 4
  let shown := min all (style.precision.getD all)
  let n := nearestEven ((mantissa : Rat) / (Nat.pow 16 (all - shown) : Nat))
  let digits := Nat.toDigits 16 (n % Nat.pow 16 shown)
  let fraction := if shown = 0 then [] else List.replicate (shown - digits.length) '0' ++ digits
  let fraction := match style.precision with
    | some p => fraction ++ List.replicate (p - shown) '0'
    | none => Text.dropEndWhile (· == '0') fraction
  let e := if mantissa = 0 then 0 else e + (binary64.precision - 1 : Nat)
  "0x".toList ++ pointed style.alternative (Nat.toDigits 16 (n / Nat.pow 16 shown) ++ fraction) ++
    exponentText 'p' 1 e

def magnitudeText (style : Style) : Binary → Text
  | .nan => "nan".toList
  | .infinite _ => "inf".toList
  | .finite _ m e =>
    let x := Binary.magnitude m e
    match style.letter with
    | 'f' => fixedText style (style.precision.getD 6) x
    | 'e' => scientificText style (style.precision.getD 6) x
    | 'g' => generalText style x
    | _ => hexadecimalText style m e

def isFinite : Binary → Bool
  | .finite .. => true
  | _ => false

end DiskPrep.Machine.Shell.Real
