/-!
Text as a list of characters, with the cuts that every report reader of the
library is built from: blanks, words, lines and fields. A blank is a character
with the Unicode property `White_Space`; a line ends at a line feed.
-/
namespace DiskPrep

/-- Text is kept as its characters: every reader and printer here is a function
on lists, so that what it does can be shown by induction on the characters. -/
abbrev Text := List Char

namespace Text

/-- The characters with the property `White_Space`. -/
def isBlank (c : Char) : Bool :=
  let n := c.toNat
  (9 ≤ n && n ≤ 13) || n == 0x20 || n == 0x85 || n == 0xA0 || n == 0x1680 ||
    (0x2000 ≤ n && n ≤ 0x200A) || n == 0x2028 || n == 0x2029 || n == 0x202F ||
    n == 0x205F || n == 0x3000

/-- Drops the longest end whose characters all satisfy `p`. -/
def dropEndWhile (p : Char → Bool) (t : Text) : Text :=
  (t.reverse.dropWhile p).reverse

def trim (t : Text) : Text :=
  dropEndWhile isBlank (t.dropWhile isBlank)

/-- The longest runs of characters that are not blank, in order. -/
def words (t : Text) : List Text :=
  (t.splitOnP isBlank).filter (fun run => !run.isEmpty)

/-- A line that a line feed ended also loses one carriage return before it. -/
def withoutReturn (line : Text) : Text :=
  if line.getLast? = some '\r' then line.dropLast else line

/-- The lines of a text. What follows the last line feed is a line only when it
is not empty, and it keeps a carriage return at its end. -/
def lines (t : Text) : List Text :=
  let pieces := t.splitOn '\n'
  let rest := pieces.getLastD []
  pieces.dropLast.map withoutReturn ++ (if rest.isEmpty then [] else [rest])

def joined (separator : Text) (parts : List Text) : Text :=
  separator.intercalate parts

def spaced (parts : List Text) : Text := joined [' '] parts

def dropPrefix? (start t : Text) : Option Text :=
  if start.isPrefixOf t then some (t.drop start.length) else none

def dropSuffix? (final t : Text) : Option Text :=
  if final.isSuffixOf t then some (t.take (t.length - final.length)) else none

end Text

def decimal (n : Nat) : Text := Nat.toDigits 10 n

def signedDecimal : Int → Text
  | .ofNat n => decimal n
  | .negSucc n => '-' :: decimal (n + 1)

end DiskPrep
