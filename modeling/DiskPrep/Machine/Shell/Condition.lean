import DiskPrep.Machine.Shell.Glob

/-!
Conditions on texts, integers and files, as words: an operator before or after its
operands, negation, and, or, brackets. What a word means depends on how many words
there are and on what follows it, because any word may also be an operand.
-/
namespace DiskPrep.Machine.Shell.Condition

inductive Role where
  | before
  | between
  | negation
  | conjunction
  | disjunction
  | opening
  | closing
  deriving DecidableEq, Repr

def unary : List Text :=
  ["-r", "-w", "-x", "-e", "-f", "-d", "-c", "-b", "-p", "-u", "-g", "-k", "-s", "-t", "-z", "-n",
    "-h", "-O", "-G", "-L", "-S"].map String.toList

def comparisons : List (Text × (Int → Int → Bool)) :=
  [("-eq".toList, fun a b => a == b), ("-ne".toList, fun a b => a != b),
    ("-ge".toList, fun a b => b ≤ a), ("-gt".toList, fun a b => b < a),
    ("-le".toList, fun a b => a ≤ b), ("-lt".toList, fun a b => a < b)]

def binary : List Text := ["=", "!=", "<", ">", "-nt", "-ot", "-ef"].map String.toList

def role? (word : Text) : Option Role :=
  if unary.contains word then some .before
  else if binary.contains word || comparisons.any (fun c => c.1 == word) then some .between
  else if word = ['!'] then some .negation
  else if word = "-a".toList then some .conjunction
  else if word = "-o".toList then some .disjunction
  else if word = ['('] then some .opening
  else if word = [')'] then some .closing
  else none

/-- A condition while it is read: the words from the present one on. -/
abbrev Step := StateT (List Text) (Except Text)

def fault {α : Type} (what : Text) : Step α := throw what

/-- What the first of some words does here. An operator that needs an operand and has
none, or stands where one is wanted, is an operand itself. -/
def roleHere? : List Text → Option Role
  | [] => none
  | word :: rest =>
    match role? word, rest with
    | some .before, [] => none
    | some .before, [_] => some .before
    | some .before, next :: _ => if role? next = some .between then none else some .before
    | some .opening, [] => none
    | role, _ => role

def advance : Step Unit := modify (·.drop 1)

/-- What a path leads to is as wanted; it is no pipe. -/
def isNode (s : State) (path : Text) (holds : Node → Bool) : Bool :=
  match s.find? path with
  | some (.node _ node) => holds node
  | _ => false

def hasBit (s : State) (path : Text) (bit : Nat) : Bool :=
  isNode s path fun node => node.mode &&& bit != 0

def isPipe (s : State) (path : Text) : Bool :=
  match s.find? path with
  | some (.pipe _) => true
  | _ => false

def mayUse (s : State) (path : Text) (right : Right) : Bool :=
  isNode s path (fun node => node.allows right) || (right != .execute && isPipe s path)

/-- A path is a link if it stands for a descriptor that is open. -/
def isLink (s : State) (path : Text) : Bool :=
  (State.descriptorOf? path).any fun descriptor => (s.stream? descriptor).isSome

def integer (word : Text) : Step Int :=
  match Integer.ofText? false word with
  | some n => return n
  | none => fault ("Illegal number: ".toList ++ word)

def testUnary (s : State) (operator operand : Text) : Step Bool :=
  match operator.getLastD ' ' with
  | 'z' => return operand.isEmpty
  | 'n' => return !operand.isEmpty
  | 't' => do
    let _ ← integer operand
    return false
  | 'r' => return mayUse s operand .read
  | 'w' => return mayUse s operand .write
  | 'x' => return mayUse s operand .execute
  | 'f' => return isNode s operand Node.isFile
  | 'd' => return isNode s operand Node.isDirectory
  | 'c' => return isNode s operand fun
    | .device isBlock => !isBlock
    | _ => false
  | 'b' => return isNode s operand fun
    | .device isBlock => isBlock
    | _ => false
  | 's' => return isNode s operand fun
    | .file content _ => !content.isEmpty
    | node => node.isDirectory
  | 'u' => return hasBit s operand 0o4000
  | 'g' => return hasBit s operand 0o2000
  | 'k' => return hasBit s operand 0o1000
  | 'p' => return isPipe s operand
  | 'h' => return isLink s operand
  | 'L' => return isLink s operand
  | c => return ['e', 'O', 'G'].contains c && (s.find? operand).isSome

def testBinary (s : State) (left operator right : Text) : Step Bool :=
  match comparisons.find? fun c => c.1 == operator with
  | some (_, holds) => do
    let a ← integer left
    let b ← integer right
    return holds a b
  | none =>
    if operator = ['='] then return left == right
    else if operator = "!=".toList then return left != right
    else if operator = ['<'] then return Path.textLess left right
    else if operator = ['>'] then return Path.textLess right left
    else if operator = "-ef".toList then
      match s.find? left, s.find? right with
      | some a, some b => return a == b
      | _, _ => return false
    else return false

mutual

/-- Conditions of which one must hold. It ends at the last word that it needs. -/
def disjunction (s : State) : Nat → Option Role → Bool → Step Bool
  | 0, _, _ => fault "argument expected".toList
  | limit + 1, role, before => do
    let holds ← conjunction s limit role true
    let rest := (← get).drop 1
    if roleHere? rest = some .disjunction then
      set (rest.drop 1)
      disjunction s limit (roleHere? (rest.drop 1)) (before || holds)
    else return before || holds

def conjunction (s : State) : Nat → Option Role → Bool → Step Bool
  | 0, _, _ => fault "argument expected".toList
  | limit + 1, role, before => do
    let holds ← negation s limit role
    let rest := (← get).drop 1
    if roleHere? rest = some .conjunction then
      set (rest.drop 1)
      conjunction s limit (roleHere? (rest.drop 1)) (before && holds)
    else return before && holds

def negation (s : State) : Nat → Option Role → Step Bool
  | 0, _ => fault "argument expected".toList
  | limit + 1, role => do
    if role = some .negation then
      let rest := (← get).drop 1
      if rest.isEmpty then return true
      else
        set rest
        return !(← negation s limit (roleHere? rest))
    else primary s limit role

def primary (s : State) : Nat → Option Role → Step Bool
  | 0, _ => fault "argument expected".toList
  | limit + 1, role => do
    match ← get, role with
    | [], _ => return false
    | _, some .opening =>
      advance
      let inside ← get
      if roleHere? inside = some .closing then return false
      else
        let holds ← disjunction s limit (roleHere? inside) false
        advance
        if roleHere? (← get) = some .closing then return holds
        else fault "closing paren expected".toList
    | operator :: rest, some .before =>
      advance
      match rest with
      | [] => fault (operator ++ ": argument expected".toList)
      | operand :: _ => testUnary s operator operand
    | left :: rest, _ =>
      match rest, roleHere? rest with
      | operator :: after, some .between =>
        advance
        advance
        match after with
        | [] => fault (operator ++ ": argument expected".toList)
        | right :: _ => testBinary s left operator right
      | _, _ => return !left.isEmpty

end

def evaluate (s : State) (role : Option Role) (words : List Text) : Except Text Bool := do
  let (holds, rest) ← (disjunction s (6 * words.length + 6) role false).run words
  match rest with
  | word :: _ :: _ =>
    throw (if word.isEmpty then "unexpected operator".toList
      else word ++ ": unexpected operator".toList)
  | _ => return holds

/-- Whether words are a condition that holds. Three words are two operands with an
operator between them if they can be; brackets around few words, and a negation
before them, are no operands. -/
def holds (s : State) : List Text → Except Text Bool
  | [] => return false
  | words =>
    if words.length = 3 && (words[1]?.bind role?) == some .between then evaluate s none words
    else if words.length = 3 || words.length = 4 then
      if words.head? = some ['('] && words.getLast? = some [')'] then
        let inside := (words.drop 1).dropLast
        evaluate s (roleHere? inside) inside
      else match words with
        | ['!'] :: rest => return !(← holds s rest)
        | words => evaluate s (roleHere? words) words
    else evaluate s (roleHere? words) words

end DiskPrep.Machine.Shell.Condition
