import DiskPrep.Machine.FileTree

/-!
Which program a file is. The first bytes of a script name the program that runs it,
with at most one argument for it; a file that does so may itself be named in this
way. Paths and arguments are texts whose characters are bytes.
-/
namespace DiskPrep.Machine

/-- The programs that are no scripts. -/
inductive Program where
  | shell
  | yes
  | no
  | echo
  | cat
  /-- The one that runs another program, with more variables. -/
  | environment
  deriving DecidableEq, Repr

structure Image where
  program : Program
  name : Text
  arguments : List Text
  deriving DecidableEq, Repr

namespace Image

def programOf (name : Text) : Program :=
  if name = "true".toList then .yes
  else if name = "false".toList then .no
  else if name = "echo".toList then .echo
  else if name = "cat".toList then .cat
  else if name = "env".toList then .environment
  else .shell

/-- Bytes of a script that are looked at. -/
def headLength : Nat := 256

def isLineBlank (c : Char) : Bool := c == ' ' || c == '\t'

/-- What a script's first line says after its mark, as far as it is looked at. A line
that has no end here must at least have an end of the first word. -/
def line? (head : Text) : Option Text :=
  let padded := head ++ List.replicate (headLength - head.length) '\x00'
  let untilZero := padded.takeWhile (· != '\x00')
  if untilZero.contains '\n' then
    some (Text.dropEndWhile isLineBlank ((untilZero.takeWhile (· != '\n')).drop 2))
  else
    let text := (padded.take (headLength - 1)).drop 2
    let word := text.dropWhile isLineBlank
    if word.any fun c => isLineBlank c || c == '\x00' then some (Text.dropEndWhile isLineBlank text)
    else none

/-- The interpreter that the start of a script names, and the argument for it. -/
def interpreter? (content : Text) : Option (Text × Option Text) := do
  guard (content.take 2 = "#!".toList)
  let line ← line? (content.take headLength)
  let words := line.dropWhile isLineBlank
  let endsName (c : Char) : Bool := isLineBlank c || c == '\x00'
  let name := words.takeWhile fun c => !endsName c
  guard (!words.isEmpty)
  let argument := match words.dropWhile fun c => !endsName c with
    | '\x00' :: _ => none
    | [] => none
    | rest => some ((rest.dropWhile isLineBlank).takeWhile (· != '\x00'))
  return (name, argument)

/-- Scripts that run one another at most. -/
def chainLimit : Nat := 6

def tooManyLinks : Int := 40

def follow (tree : FileTree) (directory : Location) :
    Nat → Text → List Text → Except SystemError Image
  | 0, _, _ => .error (.number tooManyLinks)
  | limit + 1, path, arguments => do
    let (location, node) ← tree.resolveFrom directory (Text.ofBytewise path)
    match node with
    | .file content _ =>
      if !node.allows .execute then .error (.number notPermitted)
      else if FileTree.isStandard location then
        return ⟨programOf (location.getLastD []), path, arguments⟩
      else match interpreter? (Text.ofBytes content) with
        | none => .error (.number badExecutable)
        | some (name, argument) => follow tree directory limit name (argument.toList ++ path :: arguments)
    | _ => .error (.number notPermitted)

/-- The program that a path stands for, started with the given arguments. -/
def find (tree : FileTree) (directory : Location) (path : Text) (arguments : List Text) :
    Except SystemError Image :=
  follow tree directory chainLimit path arguments

end Image

end DiskPrep.Machine
