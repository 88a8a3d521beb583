import DiskPrep.Machine.Shell.Pattern

/-!
Fields. Expanded text is split at separators where an expansion put it there, and
not where the script has it. Characters remember whether they were quoted, which
matters when a field is read as a pattern.
-/
namespace DiskPrep.Machine.Shell

/-- A character of expanded text. -/
inductive Cell where
  | plain (c : Char)
  | quoted (c : Char)
  /-- Quotes stood here, so that there is a field even if it is empty. -/
  | mark
  deriving DecidableEq, Repr

namespace Cell

def char? : Cell → Option Char
  | plain c => some c
  | quoted c => some c
  | mark => none

def text (cells : List Cell) : Text := cells.filterMap char?

/-- The pattern that cells are: only plain characters stand for more than themselves. -/
def pattern (cells : List Cell) : Text :=
  cells.flatMap fun
    | plain c => [c]
    | quoted c => ['\\', c]
    | mark => []

end Cell

inductive Splitting where
  | whole
  | split
  /-- Only where one argument follows another one. -/
  | listed
  deriving DecidableEq, Repr

structure Segment where
  splitting : Splitting
  cells : List Cell
  deriving DecidableEq, Repr

namespace Field

/-- What stands between two arguments when all of them are listed. -/
def argumentEnd : Char := '\x00'

/-- Separators that count as one where they stand together. -/
def isBlank (c : Char) : Bool := [' ', '\t', '\n', argumentEnd].contains c

structure Splitter where
  /-- The fields so far, the last one first. -/
  fields : List (List Cell)
  /-- The cells of the field that has begun, the last one first. -/
  current : List Cell
  /-- A blank separator came last. -/
  afterBlank : Bool
  /-- Fields that may still be ended, if not all may. -/
  left : Option Nat
  /-- The field that has begun, up to where it ends if only blanks follow. -/
  cut : Option (List Cell)
  /-- How the last part was split that was not whole. -/
  last : Splitting

namespace Splitter

def push (s : Splitter) (cell : Cell) : Splitter := { s with current := cell :: s.current }

/-- A cell after all the fields that may be ended. Blanks at the end do not count, and
neither does one other separator before them. -/
def pushLast (s : Splitter) (isSeparator blank : Bool) (cell : Cell) : Splitter :=
  if isSeparator && blank then { s.push cell with cut := s.cut <|> some s.current }
  else { s.push cell with
    cut := if isSeparator && s.afterBlank then s.cut else none
    afterBlank := false }

def step (separators : Text) (listed afterListed : Bool) (s : Splitter) (cell : Cell) : Splitter :=
  match cell.char? with
  | none => s.push cell
  | some c =>
    let isSeparator := c == argumentEnd || (!listed && separators.contains c)
    let blank := isBlank c
    if s.left = some 0 then s.pushLast isSeparator blank cell
    else if s.afterBlank then
      if !isSeparator then { s with current := [cell], afterBlank := false }
      else { s with current := [], afterBlank := blank }
    else if !isSeparator then s.push cell
    else
      let blank := blank && !(listed || afterListed)
      if s.current.isEmpty && blank then s
      else if s.left = some 1 then
        { s.push cell with left := some 0, cut := some s.current, afterBlank := blank }
      else { s with
        fields := s.current :: s.fields
        current := []
        afterBlank := blank
        left := s.left.map (· - 1) }

def add (separators : Text) (s : Splitter) (part : Segment) : Splitter :=
  match part.splitting with
  | .whole => { s with current := part.cells.reverse ++ s.current }
  | splitting =>
    part.cells.foldl (step separators (splitting == .listed) (s.last == .listed))
      { s with afterBlank := false, last := splitting }

def finish (s : Splitter) : List (List Cell) :=
  let final := s.cut.getD s.current
  let fields :=
    if s.last = .listed then s.current :: s.fields
    else if final.isEmpty then s.fields
    else final :: s.fields
  (fields.map List.reverse).reverse

end Splitter

/-- The fields of a text, of which there are at most so many. -/
def split (separators : Text) (limit : Option Nat) (parts : List Segment) : List (List Cell) :=
  (parts.foldl (Splitter.add separators) ⟨[], [], false, limit, none, .whole⟩).finish

end Field

end DiskPrep.Machine.Shell
