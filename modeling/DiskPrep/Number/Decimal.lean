import DiskPrep.Number.Binary
import DiskPrep.Text.Basic

/-!
Decimal texts of binary numbers. The shortest text of a number is a point of the
coarsest decimal grid that has a point among the reals rounding to the number;
of two such points it is the nearer one. Digits are always written in full, never
with an exponent.
-/
namespace DiskPrep

def tenPow (k : Int) : Rat := (10 : Rat) ^ k

/-- `coefficient / 10 ^ places` written with exactly that many places. -/
def fixedPoint (places coefficient : Nat) : Text :=
  let scale := Nat.pow 10 places
  let fraction := decimal (coefficient % scale)
  decimal (coefficient / scale) ++
    (if places = 0 then [] else '.' :: (List.replicate (places - fraction.length) '0' ++ fraction))

/-- `coefficient · 10 ^ exponent` written in full. -/
def positional (coefficient : Nat) : Int → Text
  | .ofNat n => decimal (coefficient * Nat.pow 10 n)
  | .negSucc n => fixedPoint (n + 1) coefficient

namespace Binary

/-- Lower end of the reals that round to `mantissa · 2 ^ exponent`: half a unit
below, or a quarter where the units below are half as large. -/
def lowerEnd (f : Format) (mantissa : Nat) (exponent : Int) : Rat :=
  let gap : Rat :=
    if mantissa = f.fieldWeight ∧ f.minExponent < exponent then 1 / 4 else 1 / 2
  ((mantissa : Rat) - gap) * twoPow exponent

/-- Upper end of the reals that round to `mantissa · 2 ^ exponent`. -/
def upperEnd (mantissa : Nat) (exponent : Int) : Rat :=
  ((mantissa : Rat) + 1 / 2) * twoPow exponent

/-- `x` rounds to `mantissa · 2 ^ exponent`. The ends belong to the even mantissa. -/
def readsBack (f : Format) (mantissa : Nat) (exponent : Int) (x : Rat) : Bool :=
  let low := lowerEnd f mantissa exponent
  let high := upperEnd mantissa exponent
  if mantissa % 2 = 0 then decide (low ≤ x ∧ x ≤ high) else decide (low < x ∧ x < high)

/-- The point of the grid `10 ^ k` that stands for the number, if there is one:
the nearer of the neighbours that read back, the upper one of two equally near. -/
def gridPoint? (f : Format) (mantissa : Nat) (exponent k : Int) : Option Nat :=
  let x := magnitude mantissa exponent / tenPow k
  let below := x.floor.toNat
  let above := x.ceil.toNat
  let reads (n : Nat) : Bool := readsBack f mantissa exponent ((n : Rat) * tenPow k)
  if reads above && (!reads below || decide ((above : Rat) - x ≤ x - (below : Rat))) then some above
  else if reads below then some below
  else none

/-- Grids to try, the coarsest first: from above the number down to a grid finer
than its unit. -/
def grids (mantissa : Nat) (exponent : Int) : List Int :=
  let top := (decimal (magnitude mantissa exponent).floor.toNat).length
  (List.range (top + (-exponent).toNat + 1)).map fun (i : Nat) => (top : Int) - (i : Int)

def shortest? (f : Format) (mantissa : Nat) (exponent : Int) : Option (Nat × Int) :=
  (grids mantissa exponent).findSome? fun k =>
    (gridPoint? f mantissa exponent k).map fun n => (n, k)

/-- The sign, a word for what is not finite, and otherwise the digits. -/
def signed (digits : Nat → Int → Text) : Binary → Text
  | finite s m e => (if s then ['-'] else []) ++ digits m e
  | infinite s => (if s then ['-'] else []) ++ "inf".toList
  | nan => "NaN".toList

/-- The shortest text that reads back as the number. -/
def shortestText (f : Format) : Binary → Text :=
  signed fun m e =>
    if m = 0 then ['0']
    else match shortest? f m e with
      | some (n, k) => positional n k
      | none => fixedPoint 0 (nearestEven (magnitude m e))

/-- The exact value rounded to one place; a half goes to the even digit. -/
def onePlaceText : Binary → Text :=
  signed fun m e => fixedPoint 1 (nearestEven (magnitude m e * 10))

end Binary

end DiskPrep
