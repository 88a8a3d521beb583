import DiskPrep.Text.Basic

/-!
Paths are shown as they were written, and compared by their components: a
doubled slash, an inner `.` and a slash at the end make no difference, a `.` at
the start and every `..` do.
-/
namespace DiskPrep

/-- A path as it was written. Equality of this type is equality of the texts. -/
structure Path where
  text : Text
  deriving DecidableEq, Repr

namespace Path

inductive Component where
  | root
  | here
  | up
  | name (text : Text)
  deriving DecidableEq, Repr

/-- The component that a piece between slashes stands for. A `.` counts only
where `here` is allowed. -/
def Component.ofPiece? (hereAllowed : Bool) (piece : Text) : Option Component :=
  if piece.isEmpty then none
  else if piece = ['.'] then (if hereAllowed then some .here else none)
  else if piece = ['.', '.'] then some .up
  else some (.name piece)

/-- Components in order. The root comes first in an absolute path; a `.` counts
only at the start of a relative one. -/
def components (p : Path) : List Component :=
  match p.text.splitOn '/' with
  | [] => []
  | first :: rest =>
    let later := rest.filterMap (Component.ofPiece? false)
    if p.text.head? = some '/' then .root :: later
    else (Component.ofPiece? true first).toList ++ later

/-- The paths have the same components. -/
def same (p q : Path) : Bool := p.components == q.components

/-- How deep a path is: its number of components. -/
def depth (p : Path) : Nat := p.components.length

/-- Texts in the order of their code points. -/
def textLess : Text → Text → Bool
  | _, [] => false
  | [], _ :: _ => true
  | a :: as, b :: bs => a.toNat < b.toNat || (a == b && textLess as bs)

def Component.rank : Component → Nat
  | .root => 0
  | .here => 1
  | .up => 2
  | .name _ => 3

/-- Components by kind, and names by their texts. -/
def Component.less : Component → Component → Bool
  | .name s, .name t => textLess s t
  | a, b => a.rank < b.rank

def componentsLess : List Component → List Component → Bool
  | _, [] => false
  | [], _ :: _ => true
  | a :: as, b :: bs => a.less b || (a == b && componentsLess as bs)

/-- `p` does not come after `q` in the order of components. -/
def atMost (p q : Path) : Bool := !componentsLess q.components p.components

/-- The last component, when it is a name. -/
def baseName? (p : Path) : Option Text :=
  match p.components.getLast? with
  | some (.name text) => some text
  | _ => none

/-- `name` inside `directory`; an absolute name stands for itself. -/
def join (directory name : Text) : Path :=
  if name.head? = some '/' then ⟨name⟩
  else if directory.isEmpty || directory.getLast? = some '/' then ⟨directory ++ name⟩
  else ⟨directory ++ '/' :: name⟩

def ofDeviceName (name : Text) : Path := join "/dev".toList name

end Path

end DiskPrep
