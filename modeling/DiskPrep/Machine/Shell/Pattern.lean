import DiskPrep.Text.Numeral

/-!
Patterns: a star for any text, a question mark for one character, brackets for one
of a set. A backslash makes the next character one that only matches itself. The
characters are bytes, and in sets they are ordered as signed ones.
-/
namespace DiskPrep.Machine.Shell.Pattern

/-- A number of seven bits between two others, both included. -/
def isBetween (first last : Nat) (c : Char) : Bool := first ≤ c.toNat && c.toNat ≤ last

def isGraphic (c : Char) : Bool := isBetween 33 126 c

def classes : List (Text × (Char → Bool)) :=
  [(":alnum:]".toList, Char.isAlphanum),
   (":alpha:]".toList, Char.isAlpha),
   (":blank:]".toList, fun c => c == ' ' || c == '\t'),
   (":cntrl:]".toList, fun c => isBetween 0 31 c || c.toNat == 127),
   (":digit:]".toList, Numeral.isDigit),
   (":graph:]".toList, isGraphic),
   (":lower:]".toList, Char.isLower),
   (":print:]".toList, isBetween 32 126),
   (":punct:]".toList, fun c => isGraphic c && !c.isAlphanum),
   (":space:]".toList, fun c => c == ' ' || isBetween 9 13 c),
   (":upper:]".toList, Char.isUpper),
   (":xdigit:]".toList, fun c => Numeral.isDigit c || isBetween 65 70 c || isBetween 97 102 c)]

/-- A class that the text begins with, and the text after it. -/
def class? (t : Text) : Option ((Char → Bool) × Text) :=
  classes.findSome? fun (name, holds) => (Text.dropPrefix? name t).map fun rest => (holds, rest)

def signedByte (c : Char) : Int := if c.toNat < 128 then c.toNat else (c.toNat : Int) - 256

def unescaped : Text → Text
  | '\\' :: t => t
  | t => t

/-- Whether a member of the set whose first member begins with `c` is `x`, and the
pattern after the set; none if nothing closes it. -/
def inSet? (x : Char) : Nat → Bool → Char → Text → Option (Bool × Text)
  | 0, _, _, _ => none
  | limit + 1, found, c, t =>
    let goOn (found : Bool) (t : Text) : Option (Bool × Text) :=
      match t with
      | [] => none
      | ']' :: rest => some (found, rest)
      | c :: rest => inSet? x limit found c rest
    match (if c = '[' then class? t else none) with
    | some (holds, rest) => goOn (found || holds x) rest
    | none =>
      match (if c = '\\' then t else c :: t) with
      | [] => none
      | first :: t =>
        match t with
        | '-' :: d :: rest =>
          if d = ']' then goOn (found || first == x) t
          else match unescaped (d :: rest) with
            | last :: rest =>
              goOn (found || signedByte first ≤ signedByte x && signedByte x ≤ signedByte last) rest
            | [] => none
        | t => goOn (found || first == x) t

/-- Whether a character is in the set that follows a bracket, and the pattern after
it; none if the bracket begins no set. -/
def set? (x : Char) (t : Text) : Option (Bool × Text) :=
  let (excluded, members) : Bool × Text := match t with
    | '!' :: rest => (true, rest)
    | rest => (false, rest)
  match members with
  | c :: rest => (inSet? x (t.length + 1) false c rest).map fun (found, rest) => (found != excluded, rest)
  | [] => none

/-- The whole text fits the pattern, of which so many characters are looked at. -/
def matchesWithin : Nat → Text → Text → Bool
  | 0, pattern, t => pattern.isEmpty && t.isEmpty
  | _ + 1, [], t => t.isEmpty
  | limit + 1, '*' :: pattern, t =>
    (List.range (t.length + 1)).any fun (n : Nat) => matchesWithin limit pattern (t.drop n)
  | _ + 1, _ :: _, [] => false
  | limit + 1, '?' :: pattern, _ :: t => matchesWithin limit pattern t
  | limit + 1, '[' :: pattern, x :: t =>
    match set? x pattern with
    | some (isIn, rest) => isIn && matchesWithin limit rest t
    | none => x == '[' && matchesWithin limit pattern t
  | limit + 1, '\\' :: c :: pattern, x :: t => c == x && matchesWithin limit pattern t
  | limit + 1, c :: pattern, x :: t => c == x && matchesWithin limit pattern t

def fits (pattern t : Text) : Bool := matchesWithin pattern.length pattern t

/-- Characters at the start of the text that fit a pattern: as many as possible, or
as few. -/
def startThatFits? (pattern : Text) (longest : Bool) (t : Text) : Option Nat :=
  let cuts := List.range (t.length + 1)
  (if longest then cuts.reverse else cuts).find? fun (n : Nat) => fits pattern (t.take n)

/-- Characters before the end of the text that fits a pattern: the longest end, or
the shortest. -/
def endThatFits? (pattern : Text) (longest : Bool) (t : Text) : Option Nat :=
  let cuts := List.range (t.length + 1)
  (if longest then cuts else cuts.reverse).find? fun (n : Nat) => fits pattern (t.drop n)

def escape (t : Text) : Text := t.flatMap fun c => ['\\', c]

def isSpecial : Text → Bool
  | '\\' :: _ :: t => isSpecial t
  | '[' :: t => (set? ' ' t).isSome || isSpecial t
  | c :: t => c == '*' || c == '?' || isSpecial t
  | [] => false

end DiskPrep.Machine.Shell.Pattern
