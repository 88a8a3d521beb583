import DiskPrep.Machine.Shell.Field
import DiskPrep.Machine.Shell.State

/-!
Fields that are patterns stand for the paths that fit them, in the order of their
bytes. Each piece between slashes is a pattern of its own, which fits a name that
begins with a dot only if it begins with one itself.
-/
namespace DiskPrep.Machine.Shell

namespace State

def resolve (s : State) (path : Text) : Except SystemError (Location × Node) :=
  s.tree.resolveFrom s.directory (Text.ofBytewise path)

def descriptorOf? (path : Text) : Option Nat :=
  if path = "/dev/stdin".toList then some 0
  else if path = "/dev/stdout".toList then some 1
  else if path = "/dev/stderr".toList then some 2
  else
    let digits? := Text.dropPrefix? "/dev/fd/".toList path <|>
      Text.dropPrefix? "/proc/self/fd/".toList path
    (digits?.filter fun digits => !digits.isEmpty && digits.all Numeral.isDigit).map Numeral.value

/-- What is at a path, where the path of an open descriptor has what that leads to. -/
inductive Found where
  | node (location : Location) (node : Node)
  | pipe (stream : Nat)
  deriving DecidableEq, Repr

def find? (s : State) (path : Text) : Option Found :=
  let nodeAt (location : Location) : Option Found :=
    (s.tree.find? location).map (Found.node location)
  match descriptorOf? path with
  | none => (s.resolve path).toOption.map fun (location, node) => .node location node
  | some descriptor =>
    match s.stream? descriptor with
    | some (_, .file location _ _) => nodeAt location
    | some (_, .nowhere) => nodeAt ["dev".toList, "null".toList]
    | some (n, _) => some (.pipe n)
    | none => none

def entries (s : State) (path : Text) : List Text :=
  match s.resolve (if path.isEmpty then ['.'] else path) with
  | .ok (location, node) =>
    if node.isDirectory && node.allows .read then
      ['.'] :: ['.', '.'] :: (s.tree.namesIn location).map Text.bytewise
    else []
  | .error _ => []

end State

namespace Glob

def pieces : Text → List Text
  | [] => [[]]
  | '/' :: rest => [] :: pieces rest
  | '\\' :: '/' :: rest => [] :: pieces rest
  | '\\' :: c :: rest =>
    match pieces rest with
    | piece :: more => ('\\' :: c :: piece) :: more
    | [] => [['\\', c]]
  | c :: rest =>
    match pieces rest with
    | piece :: more => (c :: piece) :: more
    | [] => [[c]]

/-- The text of a piece that only fits itself. -/
def literal : Text → Text
  | '\\' :: c :: rest => c :: literal rest
  | c :: rest => c :: literal rest
  | [] => []

def opensSet : Text → Bool
  | '\\' :: _ :: rest => opensSet rest
  | c :: rest => c == ']' || opensSet rest
  | [] => false

def isOpen : Text → Bool
  | '\\' :: _ :: rest => isOpen rest
  | '[' :: '!' :: rest => opensSet (rest.drop 1) || isOpen rest
  | '[' :: rest => opensSet (rest.drop 1) || isOpen rest
  | c :: rest => c == '*' || c == '?' || isOpen rest
  | [] => false

def wantsDot (piece : Text) : Bool :=
  match piece with
  | '\\' :: c :: _ => c == '.'
  | c :: _ => c == '.'
  | [] => false

/-- The paths that begin with a given one and go on as the pieces say. -/
def paths (s : State) (before : Text) : List Text → List Text
  | [] => []
  | [piece] =>
    if isOpen piece then
      (named piece).map (before ++ ·)
    else
      let path := before ++ literal piece
      if (s.resolve path).isOk then [path] else []
  | piece :: rest =>
    if isOpen piece then
      (named piece).flatMap fun name => paths s (before ++ name ++ ['/']) rest
    else paths s (before ++ literal piece ++ ['/']) rest
where
  /-- The names that fit a piece. -/
  named (piece : Text) : List Text :=
    (s.entries before).filter fun name =>
      (name.head? != some '.' || wantsDot piece) && Pattern.fits piece name

def notAfter (a b : Text) : Bool := !Path.textLess b a

/-- The words that a field stands for: the paths that fit it, or itself. -/
def words (s : State) (field : List Cell) : List Text :=
  let itself := [Cell.text field]
  let pieces := pieces (Cell.pattern field)
  if s.isOn 'f' || !pieces.any isOpen then itself
  else match (paths s [] pieces).mergeSort notAfter with
    | [] => itself
    | found => found

end Glob

end DiskPrep.Machine.Shell
