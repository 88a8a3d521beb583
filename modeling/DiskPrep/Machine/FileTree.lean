import DiskPrep.Host.Error
import DiskPrep.Path
import DiskPrep.Text.Utf8

/-!
Files of a machine in memory. A file is found by walking the pieces of its path,
as the kernel does: from the root, or from the directory at work. Every file has
one owner, who is the reader as well and has no other rights, so the owner's bits
of a mode decide what may be done.
-/
namespace DiskPrep.Machine

inductive Node where
  | directory (mode : Nat)
  | file (content : List UInt8) (mode : Nat)
  | device (isBlock : Bool)
  deriving DecidableEq, Repr

/-- Names from the root to a node. -/
abbrev Location := List Text

/-- Every node with its location; the root itself is always there. -/
structure FileTree where
  nodes : List (Location × Node)
  deriving DecidableEq, Repr

/-- Error numbers of a walk, or of what is done at its end. -/
def notFound : Int := 2
def badExecutable : Int := 8
def notPermitted : Int := 13
def alreadyExists : Int := 17
def notDirectory : Int := 20
def isDirectory : Int := 21
def nameTooLong : Int := 36

def longestName : Nat := 255

/-- Bytes of the shortest path that is too long. -/
def pathLimit : Nat := 4096

def directoryMode : Nat := 0o755

/-- The mode of a file that every machine has and nobody runs. -/
def fileMode : Nat := 0o644

def deviceMode : Nat := 0o666

/-- What may be done with a file, with the bit that allows it to the owner. -/
inductive Right where
  | read
  | write
  | execute
  deriving DecidableEq, Repr

def Right.bit : Right → Nat
  | read => 0o400
  | write => 0o200
  | execute => 0o100

namespace Node

def mode : Node → Nat
  | directory mode => mode
  | file _ mode => mode
  | device _ => deviceMode

def allows (node : Node) (right : Right) : Bool := node.mode &&& right.bit != 0

def isDirectory : Node → Bool
  | directory _ => true
  | _ => false

def isFile : Node → Bool
  | file .. => true
  | _ => false

end Node

namespace FileTree

def toolLocation : Location := ["tmp".toList, ".tools".toList]

/-- The directory at work, where relative paths begin. -/
def workLocation : Location := ["work".toList]

def pathOf : Location → Text
  | [] => ['/']
  | names => names.flatMap fun name => '/' :: name

def toolDirectory : Text := pathOf toolLocation

def find? (tree : FileTree) : Location → Option Node
  | [] => some (.directory directoryMode)
  | location => (tree.nodes.find? fun entry => entry.1 == location).map Prod.snd

/-- The tree with one node added, or put in the place of another. -/
def put (tree : FileTree) (location : Location) (node : Node) : FileTree :=
  if tree.nodes.any (fun entry => entry.1 == location) then
    ⟨tree.nodes.map fun entry => if entry.1 == location then (location, node) else entry⟩
  else ⟨tree.nodes ++ [(location, node)]⟩

def pieces (path : Text) : List Text :=
  (path.splitOn '/').filter fun piece => !piece.isEmpty

/-- Makes the directories that a path names, as far as they are missing, and gives
the location that it leads to. -/
def makeDirectories (tree : FileTree) (here : Location) : List Text → FileTree × Location
  | [] => (tree, here)
  | piece :: rest =>
    if piece = ['.'] then tree.makeDirectories here rest
    else if piece = ['.', '.'] then tree.makeDirectories here.dropLast rest
    else
      let next := here ++ [piece]
      if (tree.find? next).isSome then tree.makeDirectories next rest
      else (tree.put next (.directory directoryMode)).makeDirectories next rest

/-- The tree with a node at a location, and every directory above it. -/
def plant (tree : FileTree) (location : Location) (node : Node) : FileTree :=
  (tree.makeDirectories [] location.dropLast).1.put location node

def standardDirectories : List Text :=
  ["/bin".toList, "/usr/bin".toList, "/dev/fd".toList, "/dev/pts".toList, "/dev/shm".toList,
    "/etc".toList, "/home".toList, "/lib".toList, "/media".toList, "/mnt".toList, "/opt".toList,
    "/proc/self/fd".toList, "/root".toList, "/run".toList, "/sbin".toList, "/srv".toList,
    "/sys".toList, "/tmp".toList, "/usr/lib".toList, "/usr/sbin".toList, "/usr/share".toList,
    "/var".toList, toolDirectory, pathOf workLocation]

def standardFiles : List (Location × String) :=
  [(["etc".toList, "passwd".toList], "root:x:0:0:root:/root:/bin/bash\n"),
    (["proc".toList, "partitions".toList], "major minor  #blocks  name\n\n")]

/-- The programs that every machine has, in both of the usual directories. -/
def standardPrograms : List Text :=
  ["sh".toList, "dash".toList, "bash".toList, "true".toList, "false".toList, "echo".toList,
    "cat".toList, "env".toList]

def programDirectories : List Location :=
  [["bin".toList], ["usr".toList, "bin".toList]]

def isStandard (location : Location) : Bool :=
  programDirectories.contains location.dropLast &&
    standardPrograms.contains (location.getLastD [])

def standardDevices : List Text :=
  ["null".toList, "zero".toList, "full".toList, "random".toList, "urandom".toList, "tty".toList,
    "stdin".toList, "stdout".toList, "stderr".toList]

/-- A machine with what every machine has and an empty directory for tools. -/
def empty : FileTree :=
  let directories := standardDirectories.foldl (fun (tree : FileTree) path =>
    (tree.makeDirectories [] (pieces path)).1) ⟨[]⟩
  let files := standardFiles.foldl (fun (tree : FileTree) (location, content) =>
    tree.put location (.file (Text.utf8 content.toList) fileMode)) directories
  let programs := standardPrograms.foldl (fun (tree : FileTree) name =>
    programDirectories.foldl (fun (tree : FileTree) directory =>
      tree.put (directory ++ [name]) (.file [] directoryMode)) tree) files
  standardDevices.foldl (fun (tree : FileTree) name =>
    tree.put ["dev".toList, name] (.device false)) programs

/-- Adds what a list of files names: a directory when the name ends in a slash,
and otherwise a file, in directories that are made for it. -/
def install (tree : FileTree) (name content : Text) (mode : Nat) : FileTree :=
  if name.getLast? = some '/' then
    let (tree, location) := tree.makeDirectories toolLocation (pieces name)
    tree.put location (.directory mode)
  else
    let names := pieces name
    let (tree, parent) := tree.makeDirectories toolLocation names.dropLast
    tree.put (parent ++ names.getLast?.toList) (.file (Text.utf8 content) mode)

/-- Walks on from a node. What is no directory has nothing below it, and what is
below a directory is reached only by who may search it. -/
def walk (tree : FileTree) (here : Location) : List Text → Except SystemError Location
  | [] => .ok here
  | piece :: rest =>
    match tree.find? here with
    | some (.directory mode) =>
      if !(Node.directory mode).allows .execute then .error (.number notPermitted)
      else if piece = ['.'] then tree.walk here rest
      else if piece = ['.', '.'] then tree.walk here.dropLast rest
      else if longestName < (Text.utf8 piece).length then .error (.number nameTooLong)
      else if (tree.find? (here ++ [piece])).isSome then tree.walk (here ++ [piece]) rest
      else .error (.number notFound)
    | some _ => .error (.number notDirectory)
    | none => .error (.number notFound)

def origin (directory : Location) (path : Text) : Location :=
  if path.head? = some '/' then [] else directory

/-- A path that no walk can follow, whatever the files are. -/
def checkPath (path : Text) : Except SystemError Unit :=
  if path.contains '\x00' then .error .zeroInFileName
  else if path.isEmpty then .error (.number notFound)
  else if pathLimit ≤ (Text.utf8 path).length then .error (.number nameTooLong)
  else .ok ()

/-- The node that a path leads to from a directory, with its location. A slash at
the end asks for a directory. -/
def resolveFrom (tree : FileTree) (directory : Location) (path : Text) :
    Except SystemError (Location × Node) := do
  checkPath path
  let location ← tree.walk (origin directory path) (pieces path)
  match tree.find? location with
  | none => .error (.number notFound)
  | some node =>
    if path.getLast? = some '/' ∧ !node.isDirectory then .error (.number notDirectory)
    else .ok (location, node)

def resolve (tree : FileTree) (path : Text) : Except SystemError (Location × Node) :=
  tree.resolveFrom workLocation path

/-- The bytes of a file, for who may read it. -/
def contentOf? (tree : FileTree) (path : Text) : Option (List UInt8) :=
  match tree.resolve path with
  | .ok (_, .file content mode) =>
    if (Node.file content mode).allows .read then some content else none
  | _ => none

def namesIn (tree : FileTree) (directory : Location) : List Text :=
  tree.nodes.filterMap fun entry =>
    if entry.1.dropLast = directory then entry.1.getLast? else none

def bytesAt (tree : FileTree) (location : Location) : List UInt8 :=
  match tree.find? location with
  | some (.file content _) => content
  | _ => []

/-- Puts bytes into a file from a position on, over what is there, and makes the
file longer where it ends before. -/
def writeAt (tree : FileTree) (location : Location) (position : Nat) (bytes : List UInt8) :
    FileTree :=
  match tree.find? location with
  | some (.file content mode) =>
    let before := content.take position
    let gap := List.replicate (position - content.length) 0
    tree.put location (.file (before ++ gap ++ bytes ++ content.drop (position + bytes.length)) mode)
  | _ => tree

/-- Replaces a file's first bytes, and makes it longer where it ends before them. -/
def overwriteStart (tree : FileTree) (path : Text) (bytes : List UInt8) :
    Except SystemError FileTree := do
  let (location, node) ← tree.resolve path
  if node.isDirectory then .error (.number Machine.isDirectory)
  else if !node.allows .write then .error (.number notPermitted)
  else .ok (tree.writeAt location 0 bytes)

/-- The location at which a path would make a file: in a directory that exists and
may be searched and written, with a name that is still free. -/
def freeLocation (tree : FileTree) (directory : Location) (path : Text) :
    Except SystemError Location := do
  let names := pieces path
  let parent ← tree.walk (origin directory path) names.dropLast
  match tree.find? parent, names.getLast? with
  | some node, some name =>
    if !node.isDirectory then .error (.number notDirectory)
    else if path.getLast? = some '/' then .error (.number Machine.isDirectory)
    else if !node.allows .execute || !node.allows .write then .error (.number notPermitted)
    else .ok (parent ++ [name])
  | _, _ => .error (.number notFound)

end FileTree

end DiskPrep.Machine
