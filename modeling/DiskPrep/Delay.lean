import DiskPrep.Number.Decimal

/-!
A pause: whole seconds and nanoseconds. It is shown in two ways, in the largest
unit it fills and as a number of seconds.
-/
namespace DiskPrep

structure Delay where
  seconds : Nat
  nanoseconds : Nat
  deriving DecidableEq, Repr

namespace Delay

def zero : Delay := ⟨0, 0⟩

def ofSeconds (n : Nat) : Delay := ⟨n, 0⟩

/-- A whole part and `fraction / 10 ^ places` without zeros at the end. -/
def trimmedDecimal (whole fraction places : Nat) : Text :=
  let digits := decimal fraction
  let padded := List.replicate (places - digits.length) '0' ++ digits
  let kept := Text.dropEndWhile (· == '0') padded
  decimal whole ++ (if kept.isEmpty then [] else '.' :: kept)

/-- The pause in the largest unit that it fills. -/
def text (d : Delay) : Text :=
  let n := d.nanoseconds
  if 0 < d.seconds then trimmedDecimal d.seconds n 9 ++ ['s']
  else if 1000000 ≤ n then trimmedDecimal (n / 1000000) (n % 1000000) 6 ++ "ms".toList
  else if 1000 ≤ n then trimmedDecimal (n / 1000) (n % 1000) 3 ++ "µs".toList
  else decimal n ++ "ns".toList

/-- The pause as a number of seconds, each step rounded to 24 bits. -/
def inSeconds (d : Delay) : Binary :=
  let f := binary32
  Binary.add f (f.ofNat d.seconds) (Binary.div f (f.ofNat d.nanoseconds) (f.ofNat 1000000000))

end Delay

end DiskPrep
