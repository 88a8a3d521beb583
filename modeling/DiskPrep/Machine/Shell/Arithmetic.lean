import DiskPrep.Machine.Shell.Integer
import DiskPrep.Machine.Shell.Syntax

/-!
Integer expressions of 64 bits: assignments, a choice, operators of ten ranks, and
signs around numerals, variables and expressions in brackets. An operand that is
not needed is read and not computed.
-/
namespace DiskPrep.Machine.Shell.Arithmetic

/-- The integer of 64 bits that has the low bits of another one. -/
def wrapped (n : Int) : Int := Int.bmod n Numeral.longLimit

/-- An operator on two integers; without a value where it has none. -/
abbrev Operator := Int → Int → Option Int

/-- One for an answer that is yes, zero for no. -/
def truth (b : Bool) : Int := if b then 1 else 0

def onBits (f : Int64 → Int64 → Int64) : Operator := fun a b =>
  some (f (Int64.ofInt a) (Int64.ofInt b)).toInt

def operators : List (Text × Nat × Operator) :=
  [(['*'], 1, fun a b => some (wrapped (a * b))),
   (['/'], 1, fun a b => if b = 0 then none else some (wrapped (a.tdiv b))),
   (['%'], 1, fun a b => if b = 0 then none else some (a.tmod b)),
   (['+'], 2, fun a b => some (wrapped (a + b))),
   (['-'], 2, fun a b => some (wrapped (a - b))),
   ("<<".toList, 3, onBits (· <<< ·)),
   (">>".toList, 3, onBits (· >>> ·)),
   (['<'], 4, fun a b => some (truth (a < b))),
   ("<=".toList, 4, fun a b => some (truth (a ≤ b))),
   (['>'], 4, fun a b => some (truth (a > b))),
   (">=".toList, 4, fun a b => some (truth (a ≥ b))),
   ("==".toList, 5, fun a b => some (truth (a == b))),
   ("!=".toList, 5, fun a b => some (truth (a != b))),
   (['&'], 6, onBits (· &&& ·)),
   (['^'], 7, onBits (· ^^^ ·)),
   (['|'], 8, onBits (· ||| ·))]

/-- The rank after the loosest of the operators. -/
def looseRank : Nat := 9

def operator? (name : Text) : Option (Nat × Operator) :=
  (operators.find? fun o => o.1 == name).map Prod.snd

inductive Token where
  | numeral (value : Int)
  | name (text : Text)
  | sign (text : Text)
  /-- What belongs to no expression. -/
  | unknown
  | ending
  deriving DecidableEq, Repr

/-- Signs, of which those that begin alike stand with the longest first. -/
def signs : List Text :=
  ["<<=".toList, ">>=".toList, "<<".toList, ">>".toList, "<=".toList, ">=".toList, "==".toList,
    "!=".toList, "&&".toList, "||".toList, "*=".toList, "/=".toList, "%=".toList, "+=".toList,
    "-=".toList, "&=".toList, "^=".toList, "|=".toList, ['='], ['<'], ['>'], ['|'], ['&'], ['!'],
    ['('], [')'], ['*'], ['/'], ['%'], ['+'], ['-'], ['~'], ['^'], ['?'], [':']]

/-- The tokens of an expression, up to what belongs to none. -/
def tokens : Nat → Text → List Token
  | 0, _ => []
  | _ + 1, [] => []
  | limit + 1, c :: rest =>
    if c = ' ' ∨ c = '\t' ∨ c = '\n' then tokens limit rest
    else if Numeral.isDigit c then
      let n := Integer.read Integer.long true (c :: rest)
      .numeral n.value :: tokens limit n.rest
    else if startsName c then
      .name ((c :: rest).takeWhile inName) :: tokens limit ((c :: rest).dropWhile inName)
    else match signs.find? fun sign => sign.isPrefixOf (c :: rest) with
      | some sign => .sign sign :: tokens limit ((c :: rest).drop sign.length)
      | none => [.unknown]

inductive Fault where
  /-- The expression is wrong in this way. -/
  | reason (text : Text)
  /-- A variable holds no integer, but this. -/
  | noInteger (value : Text)
  deriving DecidableEq, Repr

/-- An expression while it is read: what is left of it, and the variables that it
has assigned, the last one first. -/
structure Reader where
  left : List Token
  assigned : List (Text × Int)

abbrev Step := StateT Reader (Except Fault)

def fault {α : Type} (text : Text) : Step α := throw (.reason text)

def peek : Step Token := return (← get).left.headD .ending

def advance : Step Unit := modify fun r => { r with left := r.left.drop 1 }

/-- The value of a variable: what the expression assigned, or what it had. -/
def valueOf (known : Text → Text) (name : Text) : Step Int := do
  match (← get).assigned.find? fun a => a.1 == name with
  | some (_, n) => return n
  | none =>
    match Integer.ofText? true (known name) with
    | some n => return n
    | none => throw (.noInteger (known name))

def apply (operator : Operator) (a b : Int) : Step Int :=
  match operator a b with
  | some n => return n
  | none => fault "division by zero".toList

def assign (name : Text) (value : Int) : Step Unit :=
  modify fun r => { r with assigned := (name, value) :: r.assigned }

/-- The operator of an assignment, if the sign assigns: none in it for a plain one. -/
def assignment? (sign : Text) : Option (Option Operator) :=
  if sign = ['='] then some none
  else if sign.getLast? = some '=' then
    match operator? sign with
    | some _ => none
    | none => (operator? sign.dropLast).map fun o => some o.2
  else none

mutual

/-- An operand: a numeral, a variable, an expression in brackets, or an operand
after a sign. -/
def operand (known : Text → Text) : Nat → Bool → Step Int
  | 0, _ => fault "expecting primary".toList
  | limit + 1, idle => do
    let token ← peek
    match token with
    | .numeral n =>
      advance
      return n
    | .name name =>
      advance
      if idle then return 0 else valueOf known name
    | .sign ['('] =>
      advance
      let n ← expression known limit idle
      if (← peek) = .sign [')'] then
        advance
        return n
      else fault "expecting ')'".toList
    | .sign ['+'] =>
      advance
      operand known limit idle
    | .sign ['-'] =>
      advance
      return wrapped (-(← operand known limit idle))
    | .sign ['!'] =>
      advance
      return truth ((← operand known limit idle) == 0)
    | .sign ['~'] =>
      advance
      return -(← operand known limit idle) - 1
    | _ => fault "expecting primary".toList

/-- What follows a value, as far as it is joined to it by operators of a rank below
the given one. -/
def joined (known : Text → Text) : Nat → Bool → Nat → Int → Step Int
  | 0, _, _, _ => fault "expecting primary".toList
  | limit + 1, idle, below, left => do
    match ← peek with
    | .sign sign =>
      match operator? sign with
      | none => return left
      | some (rank, operator) =>
        if rank < below then
          advance
          let right ← operand known limit idle
          let right ← joined known limit idle rank right
          let value ← if idle then pure right else apply operator left right
          joined known limit idle below value
        else return left
    | _ => return left

def conjunction (known : Text → Text) : Nat → Bool → Step Int
  | 0, _ => fault "expecting primary".toList
  | limit + 1, idle => do
    let first ← operand known limit idle
    let left ← joined known limit idle looseRank first
    if (← peek) = .sign "&&".toList then
      advance
      let right ← conjunction known limit (idle || left == 0)
      return truth (left != 0 && right != 0)
    else return left

def disjunction (known : Text → Text) : Nat → Bool → Step Int
  | 0, _ => fault "expecting primary".toList
  | limit + 1, idle => do
    let left ← conjunction known limit idle
    if (← peek) = .sign "||".toList then
      advance
      let right ← disjunction known limit (idle || left != 0)
      return truth (left != 0 || right != 0)
    else return left

def choice (known : Text → Text) : Nat → Bool → Step Int
  | 0, _ => fault "expecting primary".toList
  | limit + 1, idle => do
    let condition ← disjunction known limit idle
    if (← peek) = .sign ['?'] then
      advance
      let yes ← expression known limit (idle || condition == 0)
      if (← peek) = .sign [':'] then
        advance
        let no ← choice known limit (idle || condition != 0)
        return if condition != 0 then yes else no
      else fault "expecting ':'".toList
    else return condition

def expression (known : Text → Text) : Nat → Bool → Step Int
  | 0, _ => fault "expecting primary".toList
  | limit + 1, idle => do
    match (← get).left with
    | .name name :: .sign sign :: _ =>
      match assignment? sign with
      | none => choice known limit idle
      | some operator =>
        advance
        advance
        let right ← expression known limit idle
        if idle then return right
        else
          let value ← match operator with
            | none => pure right
            | some operator => do apply operator (← valueOf known name) right
          assign name value
          return value
    | _ => choice known limit idle

end

/-- The value of an expression, and the variables that it assigns, in order. -/
def evaluate (known : Text → Text) (t : Text) : Except Fault (Int × List (Text × Int)) := do
  let tokens := tokens t.length t
  let (n, reader) ← (expression known (8 * (tokens.length + 1)) false).run ⟨tokens, []⟩
  if reader.left.isEmpty then return (n, reader.assigned.reverse)
  else throw (.reason "expecting EOF".toList)

end DiskPrep.Machine.Shell.Arithmetic
