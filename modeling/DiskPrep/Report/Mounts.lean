import DiskPrep.Path
import DiskPrep.Text.Replace

/-!
The kernel's table of mounts, and the mounts that concern one device. Blanks and
backslashes inside a mount point are written as octal escapes; a line without two
fields is no entry.
-/
namespace DiskPrep

structure MountEntry where
  source : Text
  mountPoint : Path
  deriving DecidableEq, Repr

namespace MountEntry

/-- The characters that the table writes as escapes, each with its escape. -/
def escapes : List (Text × Char) :=
  [("\\040".toList, ' '), ("\\011".toList, '\t'), ("\\012".toList, '\n'), ("\\134".toList, '\\')]

/-- A field of the table with its escapes undone, one escape after the other. -/
def unescape (field : Text) : Text :=
  escapes.foldl (fun t (escape, c) => Text.replaceAll escape [c] t) field

/-- The entry on a line: its first two words. -/
def ofLine? (line : Text) : Option MountEntry :=
  match Text.words line with
  | source :: point :: _ => some ⟨source, ⟨unescape point⟩⟩
  | _ => none

def parseTable (table : Text) : List MountEntry :=
  (Text.lines table).filterMap ofLine?

/-- The paths, deepest first; paths of equal depth stay in their order. -/
def deepestFirst (paths : List Path) : List Path :=
  paths.mergeSort fun p q => q.depth ≤ p.depth

def ascending (paths : List Path) : List Path :=
  paths.mergeSort Path.atMost

/-- The paths after `last`, less every one that repeats the one kept before it. -/
def withoutRepeatsAfter (last : Path) : List Path → List Path
  | [] => []
  | p :: rest =>
    if last.same p then withoutRepeatsAfter last rest else p :: withoutRepeatsAfter p rest

/-- The paths less every one with the components of the one kept before it. -/
def withoutRepeats : List Path → List Path
  | [] => []
  | p :: rest => p :: withoutRepeatsAfter p rest

/-- The mount points of a device, in the order of the table. -/
def pointsOf (entries : List MountEntry) (device : Path) : List Path :=
  (entries.filter fun entry => entry.source == device.text).map mountPoint

/-- The mount points of everything whose source begins with the text of a device:
each once, the deepest first, and in the order of components at one depth. -/
def pointsUnder (entries : List MountEntry) (device : Path) : List Path :=
  deepestFirst <| withoutRepeats <| ascending <|
    (entries.filter fun entry => device.text.isPrefixOf entry.source).map mountPoint

end MountEntry

end DiskPrep
