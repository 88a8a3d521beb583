import DiskPrep.Number.Decimal

/-!
How a disk is split into a system partition and a raw one. Sizes are decimal
gigabytes; the system share is computed with rounded real arithmetic, so it may
have a fraction.
-/
namespace DiskPrep

/-- A size as it is shown: a whole one keeps one place, any other is written in
full. -/
def sizeText (size : Binary) : Text :=
  if size.isWhole then size.onePlaceText else Binary.shortestText binary64 size

/-- The split of a disk: its total size and the share of the system partition. -/
structure Plan where
  total : Nat
  system : Binary
  deriving DecidableEq, Repr

/-- Where a partition starts and ends, in the words given to the tool. -/
structure Bounds where
  start : Text
  finish : Text
  deriving DecidableEq, Repr

namespace Plan

/-- A share in percent, brought into the range from 1 to 100. -/
def clampPercent (percent : Nat) : Nat := max 1 (min 100 percent)

def ofPercent (total percent : Nat) : Plan where
  total := total
  system :=
    Binary.div binary64
      (Binary.mul binary64 (binary64.ofNat total) (binary64.ofNat (clampPercent percent)))
      (binary64.ofNat 100)

def totalSize (p : Plan) : Binary := binary64.ofNat p.total

/-- What the system partition leaves, never below zero. -/
def raw (p : Plan) : Binary :=
  Binary.atLeastZero binary64 (Binary.sub binary64 p.totalSize p.system)

def hasRaw (p : Plan) : Bool := Binary.less p.system p.totalSize

def systemBounds (p : Plan) : Bounds := ⟨['0'], sizeText p.system⟩

/-- Bounds of the raw partition, if there is one: it starts where the system
partition ends. -/
def rawBounds? (p : Plan) : Option Bounds :=
  if p.hasRaw then some ⟨sizeText p.system, decimal p.total⟩ else none

def text (p : Plan) : Text :=
  decimal p.total ++ " GB total, ".toList ++ sizeText p.system ++ " GB system, ".toList ++
    sizeText p.raw ++ " GB raw".toList

end Plan

end DiskPrep
