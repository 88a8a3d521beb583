import DiskPrep.Workflow

/-!
Finding out the size and the label of a disk. The partitioning tool fails on a
disk without a label but still prints its summary; such a disk may be given a
label and asked again. A size is read or it is zero, never guessed.
-/
namespace DiskPrep.Survey

open Workflow

def sizeQuery : Parted.Script where
  mode := .machine
  unit := some sizeUnit
  commands := [.print]

def labelScript : Parted.Script where
  mode := .script
  unit := none
  commands := [.makeLabel defaultLabel]

def geometryIn (output : Text) : Except HostError Geometry :=
  match Geometry.parseSummary output with
  | .ok geometry => .ok geometry
  | .error fault => .error (.malformed fault.message)

/-- The geometry that the answer to a first query gives. A failed run counts when
what it printed is the summary of a disk without a label. -/
def firstGeometry : Except HostError Text → Except HostError Geometry
  | .ok output => geometryIn output
  | .error (.commandFailed program code output) =>
    match Geometry.parseSummary output with
    | .ok geometry =>
      if geometry.needsLabel then .ok geometry else .error (.commandFailed program code output)
    | .error _ => .error (.commandFailed program code output)
  | .error cause => .error cause

/-- The geometry that the answer to any later query gives: a failed run is a
failure. -/
def laterGeometry (answer : Except HostError Text) : Except HostError Geometry :=
  answer.bind geometryIn

/-- One query that never changes the disk. -/
def probe? (disk : Path) : Workflow (Except HostError Geometry) := do
  return firstGeometry (← request (.parted disk sizeQuery))

/-- A query; a disk without a label is given one and asked again. -/
def inspect? (disk : Path) : Workflow (Except HostError Geometry) := do
  match ← probe? disk with
  | .error cause => return .error cause
  | .ok geometry =>
    if geometry.needsLabel then
      tell (.labelling disk)
      match ← request (.parted disk labelScript) with
      | .error cause => return .error cause
      | .ok _ => return laterGeometry (← request (.parted disk sizeQuery))
    else return .ok geometry

/-- What is known of the disk; the size is zero when nothing is. -/
def orUnknown (disk : Path) : Except HostError Geometry → Workflow Geometry
  | .ok geometry => return geometry
  | .error cause => do
    tell (.sizeUnknown disk cause)
    return .unknown

def inspect (disk : Path) : Workflow Geometry := do
  orUnknown disk (← inspect? disk)

def probe (disk : Path) : Workflow Geometry := do
  orUnknown disk (← probe? disk)

/-- Size and label of a disk; a dry run leaves a missing label missing. -/
def survey (disk : Path) (dryRun : Bool) : Workflow Geometry :=
  if dryRun then probe disk else inspect disk

end DiskPrep.Survey
