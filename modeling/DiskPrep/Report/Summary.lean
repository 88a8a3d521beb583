import DiskPrep.Text.Numeral
import DiskPrep.Text.Quoted

/-!
Size and partition-table label of a disk, from the partitioning tool's output of
colon-separated fields. The summary is the first line with six fields or more;
its second field is the size, its sixth the label.
-/
namespace DiskPrep

def unknownLabel : Text := "unknown".toList

def defaultLabel : Text := "msdos".toList

def sizeUnit : Text := "GB".toList

/-- What is known of a disk: its size in decimal gigabytes and its label. -/
structure Geometry where
  total : Nat
  label : Text
  deriving DecidableEq, Repr

namespace Geometry

/-- Stands for a disk whose size could not be found out. -/
def unknown : Geometry := ⟨0, unknownLabel⟩

def needsLabel (g : Geometry) : Bool := g.label == unknownLabel

/-- The size is known, so the disk may be worked on. -/
def isUsable (g : Geometry) : Bool := 0 < g.total

inductive Fault where
  | noSummary
  | badSize (raw : Text)
  deriving DecidableEq, Repr

def Fault.message : Fault → Text
  | noSummary => "parted: no summary row in output".toList
  | badSize raw => "parted: unexpected disk size ".toList ++ Text.quoted raw

def readSize? (field : Text) : Option Nat :=
  (Text.dropSuffix? sizeUnit field).bind (Numeral.below? Numeral.longLimit)

def fieldsOf (line : Text) : List Text := (Text.trim line).splitOn ':'

/-- The geometry that a summary's fields give; a line of fewer than six fields is
no summary. -/
def ofFields? : List Text → Option (Except Fault Geometry)
  | _ :: size :: _ :: _ :: _ :: label :: _ =>
    some (match readSize? size with
      | some total => .ok ⟨total, label⟩
      | none => .error (.badSize size))
  | _ => none

/-- The geometry on the first summary line. Later lines are not looked at, even
when the size there cannot be read. -/
def parseSummary (output : Text) : Except Fault Geometry :=
  ((Text.lines output).findSome? fun line => ofFields? (fieldsOf line)).getD (.error .noSummary)

end Geometry

end DiskPrep
