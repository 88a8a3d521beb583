import DiskPrep.Text.Numeral
import DiskPrep.Text.Quoted

/-!
The kernel's report of block devices. Two lines of heading come first; after
them each line that is not blank is a row of exactly four fields. One row that
does not fit makes the whole report unusable, so a reader never sees a part of it.
-/
namespace DiskPrep

/-- One block device: its number, its size in blocks of 1024 bytes, its name. -/
structure DeviceRow where
  major : Nat
  minor : Nat
  blocks : Nat
  name : Text
  deriving DecidableEq, Repr

namespace DeviceRow

inductive Field where
  | major
  | minor
  | blocks
  deriving DecidableEq, Repr

def Field.text : Field → Text
  | major => "major".toList
  | minor => "minor".toList
  | blocks => "blocks".toList

def Field.limit : Field → Nat
  | major => Numeral.wordLimit
  | minor => Numeral.wordLimit
  | blocks => Numeral.longLimit

/-- Why a line is not a row. Lines are counted from one. -/
inductive Fault where
  | fieldCount (line found : Nat)
  | notNumeral (line : Nat) (field : Field) (raw : Text)
  deriving DecidableEq, Repr

def Fault.line : Fault → Nat
  | fieldCount line _ => line
  | notNumeral line _ _ => line

def Fault.reason : Fault → Text
  | fieldCount _ found => "expected 4 fields, found ".toList ++ decimal found
  | notNumeral _ field raw => "invalid ".toList ++ field.text ++ " field ".toList ++ Text.quoted raw

def Fault.message (fault : Fault) : Text :=
  "/proc/partitions line ".toList ++ decimal fault.line ++ ": ".toList ++ fault.reason

def readField (line : Nat) (field : Field) (raw : Text) : Except Fault Nat :=
  match Numeral.below? field.limit raw with
  | some n => .ok n
  | none => .error (.notNumeral line field raw)

def ofWords (line : Nat) : List Text → Except Fault DeviceRow
  | [major, minor, blocks, name] => do
    let major ← readField line .major major
    let minor ← readField line .minor minor
    let blocks ← readField line .blocks blocks
    return { major, minor, blocks, name }
  | words => .error (.fieldCount line words.length)

/-- The rows of consecutive lines, the first of which has the given number. -/
def ofLines (number : Nat) : List Text → Except Fault (List DeviceRow)
  | [] => .ok []
  | line :: rest =>
    match Text.words line with
    | [] => ofLines (number + 1) rest
    | words => do
      let row ← ofWords number words
      let rows ← ofLines (number + 1) rest
      return row :: rows

/-- Number of lines that carry no rows. -/
def headingLines : Nat := 2

/-- The rows of a report, or its first line that is not a row. -/
def parseReport (report : Text) : Except Fault (List DeviceRow) :=
  ofLines (headingLines + 1) ((Text.lines report).drop headingLines)

end DeviceRow

end DiskPrep
