/-!
Binary floating-point numbers as exact values. A finite number is a sign, a
mantissa and the exponent of its unit; every operation computes the exact
rational result and rounds it once, to the nearest number and, between two, to
the one with the even mantissa.
-/
namespace DiskPrep

/-- The extent of a binary format: how many bits a mantissa has, and the least
and greatest exponent of a unit. -/
structure Format where
  precision : Nat
  minExponent : Int
  maxExponent : Int
  deriving DecidableEq, Repr

/-- Sizes are numbers of this format: 53 bits of mantissa. -/
def binary64 : Format := ⟨53, -1074, 971⟩

/-- Pauses are shown through this format: 24 bits of mantissa. -/
def binary32 : Format := ⟨24, -149, 104⟩

/-- A number, an infinity or no number. -/
inductive Binary where
  | finite (negative : Bool) (mantissa : Nat) (exponent : Int)
  | infinite (negative : Bool)
  | nan
  deriving DecidableEq, Repr

def twoPow (e : Int) : Rat := (2 : Rat) ^ e

/-- The greatest `e` with `2 ^ e ≤ x`, for a positive `x`. -/
def binaryLog (x : Rat) : Int :=
  let e := (x.num.natAbs.log2 : Int) - (x.den.log2 : Int)
  if twoPow e ≤ x then e else e - 1

/-- The nearest integer of a value that is not negative; a half goes to the even
neighbour. -/
def nearestEven (x : Rat) : Nat :=
  let below := x.floor.toNat
  let rest := x - (below : Rat)
  if rest < 1 / 2 then below
  else if 1 / 2 < rest then below + 1
  else if below % 2 = 0 then below else below + 1

namespace Format

/-- The greatest mantissa plus one. -/
def mantissaBound (f : Format) : Nat := 1 <<< f.precision

/-- The unit that the format gives to a positive value: the greatest digit of
the value is the first bit of the mantissa, unless the value is too small. -/
def unitExponent (f : Format) (x : Rat) : Int :=
  max f.minExponent (binaryLog x - (f.precision - 1 : Nat))

/-- The magnitude `mantissa · 2 ^ exponent` in its canonical form: a mantissa
that rounding has carried out of its range is halved. -/
def canonical (f : Format) (negative : Bool) (mantissa : Nat) (exponent : Int) : Binary :=
  let (m, e) :=
    if mantissa = f.mantissaBound then (mantissa / 2, exponent + 1) else (mantissa, exponent)
  if f.maxExponent < e then .infinite negative else .finite negative m e

def zero (f : Format) (negative : Bool) : Binary := .finite negative 0 f.minExponent

def ofMagnitude (f : Format) (negative : Bool) (x : Rat) : Binary :=
  let e := f.unitExponent x
  f.canonical negative (nearestEven (x / twoPow e)) e

/-- The number of the format nearest to `x`; the sign of an exact zero is given. -/
def round (f : Format) (zeroSign : Bool) (x : Rat) : Binary :=
  if x = 0 then f.zero zeroSign
  else if x < 0 then f.ofMagnitude true (-x)
  else f.ofMagnitude false x

def ofNat (f : Format) (n : Nat) : Binary := f.round false (n : Rat)

end Format

namespace Binary

def magnitude (mantissa : Nat) (exponent : Int) : Rat := (mantissa : Rat) * twoPow exponent

def signedValue (negative : Bool) (mantissa : Nat) (exponent : Int) : Rat :=
  if negative then -magnitude mantissa exponent else magnitude mantissa exponent

def value? : Binary → Option Rat
  | finite s m e => some (signedValue s m e)
  | _ => none

def negate : Binary → Binary
  | finite s m e => finite (!s) m e
  | infinite s => infinite (!s)
  | nan => nan

/-- The rounded sum. An exact zero is positive unless both terms are negative. -/
def add (f : Format) : Binary → Binary → Binary
  | finite s m e, finite s' m' e' =>
    f.round (s && s') (signedValue s m e + signedValue s' m' e')
  | infinite s, infinite s' => if s = s' then infinite s else nan
  | infinite s, finite .. => infinite s
  | finite .., infinite s => infinite s
  | nan, _ => nan
  | _, nan => nan

def sub (f : Format) (x y : Binary) : Binary := add f x y.negate

def mul (f : Format) : Binary → Binary → Binary
  | finite s m e, finite s' m' e' =>
    f.round (s != s') (signedValue s m e * signedValue s' m' e')
  | infinite s, infinite s' => infinite (s != s')
  | infinite s, finite s' m _ => if m = 0 then nan else infinite (s != s')
  | finite s m _, infinite s' => if m = 0 then nan else infinite (s != s')
  | nan, _ => nan
  | _, nan => nan

def div (f : Format) : Binary → Binary → Binary
  | finite s m e, finite s' m' e' =>
    if m' = 0 then (if m = 0 then nan else infinite (s != s'))
    else f.round (s != s') (signedValue s m e / signedValue s' m' e')
  | infinite _, infinite _ => nan
  | infinite s, finite s' .. => infinite (s != s')
  | finite s .., infinite s' => f.zero (s != s')
  | nan, _ => nan
  | _, nan => nan

/-- Strictly less. Nothing is less than, or greater than, what is no number. -/
def less : Binary → Binary → Bool
  | finite s m e, finite s' m' e' => decide (signedValue s m e < signedValue s' m' e')
  | infinite s, infinite s' => s && !s'
  | infinite s, finite .. => s
  | finite .., infinite s' => !s'
  | nan, _ => false
  | _, nan => false

/-- The number itself when it is above zero, and zero otherwise. -/
def atLeastZero (f : Format) (x : Binary) : Binary :=
  if less (f.zero false) x then x else f.zero false

def isWhole : Binary → Bool
  | finite _ m e => (magnitude m e).den == 1
  | _ => false

end Binary

namespace Format

/-- The exponent field that marks infinities and what is no number. -/
def specialField (f : Format) : Nat := (f.maxExponent - f.minExponent + 2).toNat

/-- The weight of the lowest bit of the exponent field. -/
def fieldWeight (f : Format) : Nat := 1 <<< (f.precision - 1)

def signWeight (f : Format) : Nat := f.fieldWeight * (f.specialField + 1)

def ofBits (f : Format) (bits : Nat) : Binary :=
  let negative := bits / f.signWeight % 2 = 1
  let field := bits / f.fieldWeight % (f.specialField + 1)
  let fraction := bits % f.fieldWeight
  if field = f.specialField then
    (if fraction = 0 then .infinite negative else .nan)
  else if field = 0 then .finite negative fraction f.minExponent
  else .finite negative (f.fieldWeight + fraction) (f.minExponent + (field : Int) - 1)

/-- The bit pattern of a number. What is no number has many, so it has none here. -/
def toBits? (f : Format) : Binary → Option Nat
  | .nan => none
  | .infinite s => some ((if s then f.signWeight else 0) + f.specialField * f.fieldWeight)
  | .finite s m e =>
    let sign := if s then f.signWeight else 0
    if m < f.fieldWeight then some (sign + m)
    else some (sign + (e - f.minExponent + 1).toNat * f.fieldWeight + (m - f.fieldWeight))

end Format

end DiskPrep
