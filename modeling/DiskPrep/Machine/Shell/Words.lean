import DiskPrep.Machine.Shell.Source

/-!
Reading a word, or an announced text. Quotes, braces and brackets nest, so the
reader keeps a stack of contexts, which say what the next character means, and a
stack of pieces that have begun. What a dollar sign and brackets enclose is a
command; how commands are read is a parameter here.
-/
namespace DiskPrep.Machine.Shell

inductive Quoting where
  | none
  | single
  | double
  | arithmetic
  deriving DecidableEq, Repr

/-- What the next character of a word depends on. -/
structure Context where
  quoting : Quoting
  /-- Double quotes, or what is read like them, are open. -/
  inDouble : Bool
  /-- Braces that are open. -/
  braces : Nat
  /-- Those among them that began in double quotes. -/
  bracesInDouble : Nat
  /-- Double quotes are open inside the braces. -/
  innerDouble : Bool
  /-- Brackets that are open in an expression. -/
  brackets : Nat
  /-- The context ends with its last brace. -/
  endsWithBrace : Bool
  deriving DecidableEq, Repr

def Context.start (quoting : Quoting) (endsWithBrace : Bool) : Context where
  quoting := quoting
  inDouble := quoting == .double || quoting == .arithmetic
  braces := 0
  bracesInDouble := 0
  innerDouble := false
  brackets := 0
  endsWithBrace := endsWithBrace

inductive Opening where
  | quotes
  | parameter (name : Text) (form : Form)
  | arithmetic
  deriving DecidableEq, Repr

structure Draft where
  context : Context
  /-- The contexts around it, the innermost first. -/
  outer : List Context
  /-- The pieces of the innermost part that has begun, the last first. -/
  parts : List WordPart
  /-- The parts that have begun around it, each with the pieces before it. -/
  opened : List (Opening × List WordPart)
  /-- Something was quoted. -/
  quoted : Bool

namespace Draft

def start (quoting : Quoting) : Draft := ⟨.start quoting false, [], [], [], false⟩

def add (w : Draft) (part : WordPart) : Draft := { w with parts := part :: w.parts }

/-- One more character, quoted if its place says so. -/
def addChar (w : Draft) (c : Char) : Draft :=
  w.add (if w.context.quoting = .none then .plain c else .quoted c)

def openPart (w : Draft) (opening : Opening) : Draft :=
  { w with parts := [], opened := (opening, w.parts) :: w.opened }

def closed : Opening → List WordPart → WordPart
  | .quotes, parts => .group parts
  | .parameter name form, parts => .parameter name form parts
  | .arithmetic, parts => .arithmetic parts

def closePart (w : Draft) : Draft :=
  match w.opened with
  | (opening, before) :: opened =>
    { w with parts := closed opening w.parts.reverse :: before, opened := opened }
  | [] => w

def enter (w : Draft) (context : Context) : Draft :=
  { w with context := context, outer := w.context :: w.outer }

def leave (w : Draft) : Draft :=
  match w.outer with
  | context :: outer => { w with context := context, outer := outer }
  | [] => w

def word (w : Draft) : Word := w.parts.reverse

end Draft

/-- What is read: a word, the delimiter of an announced text, or such a text up to
its delimiter. -/
inductive Kind where
  | word
  | delimiter
  | document (delimiter : Text) (withoutTabs : Bool)
  deriving DecidableEq, Repr

def Kind.isDocument : Kind → Bool
  | document .. => true
  | _ => false

def endsWord (c : Char) : Bool :=
  [' ', '\t', '\n', ';', '&', '|', '(', ')', '<', '>'].contains c

namespace Words

open Reading

/-- One step of reading goes on, or the word is complete. -/
abbrev Step := Reading (Draft ⊕ Draft)

def commonStart (a b : Text) : Nat := ((a.zip b).takeWhile fun (c, d) => c == d).length

/-- The delimiter stands alone on the line that begins here; it is skipped, and so
are tabs before it where they do not count. On a line that only begins like it, the
byte by which they differ is lost if it has its high bit. -/
def atDelimiter (kind : Kind) : Reading Bool := do
  match kind with
  | .document delimiter withoutTabs =>
    if withoutTabs then
      let tabs := ((← rest).takeWhile (· == '\t')).length
      skip tabs
    match Text.dropPrefix? delimiter (← rest) with
    | some [] =>
      skip delimiter.length
      return true
    | some ('\n' :: _) =>
      skip (delimiter.length + 1)
      return true
    | _ =>
      let text ← rest
      let same := commonStart delimiter text
      match text.drop same with
      | c :: after =>
        if same ≠ 0 ∧ 127 < c.toNat then modify fun s => { s with rest := text.take same ++ after }
      | [] => pure ()
      return false
  | _ => return false

/-- A line feed: it ends a word, but not what is quoted or stands between braces. -/
def lineFeed (kind : Kind) (w : Draft) : Step := do
  if w.context.quoting = .none ∧ w.context.braces = 0 then return .inr w
  else
    skip 1
    let w := w.addChar '\n'
    if ← atDelimiter kind then return .inr w else return .inl w

/-- A backslash quotes the character after it. In double quotes it stands for
itself unless the character means something there. -/
def backslash (kind : Kind) (w : Draft) : Step := do
  skip 1
  match (← rest).head? with
  | none => return .inl (w.add (.quoted '\\'))
  | some c =>
    skip 1
    let stands := w.context.inDouble && c != '\\' && c != backQuote && c != '$' &&
      !(c == '"' && !(kind.isDocument && w.context.braces == 0)) &&
      !(c == '\x7d' && w.context.braces != 0)
    let w := if stands then w.add (.quoted '\\') else w
    return .inl { w.add (.quoted c) with quoted := true }

def openQuote (kind : Kind) (quoting : Quoting) (w : Draft) : Draft :=
  let context := { w.context with
    quoting := quoting
    inDouble := w.context.inDouble || quoting == .double
    innerDouble := w.context.innerDouble != (quoting == .double && w.context.braces != 0) }
  let w := { w with context := context }
  if kind.isDocument then w else w.openPart .quotes

/-- A quote where quotes are open: it ends them, or begins inner ones between
braces that stand in double quotes. -/
def closeQuote (kind : Kind) (c : Char) (w : Draft) : Draft :=
  if kind.isDocument ∧ w.context.braces = 0 then w.addChar c
  else
    let opens := c == '"' && w.context.bracesInDouble != 0 && !w.context.innerDouble
    let back := w.context.bracesInDouble == 0
    let context := { w.context with
      quoting := if back then .none else w.context.quoting
      inDouble := !back && w.context.inDouble
      innerDouble := w.context.innerDouble != (c == '"' && w.context.braces != 0) }
    let w := { w with context := context, quoted := true }
    if kind.isDocument then w else if opens then w.openPart .quotes else w.closePart

/-- A closing brace ends the innermost braces unless quotes are open in them. -/
def closeBrace (w : Draft) : Draft :=
  let here := w.context
  if !here.innerDouble && here.braces != 0 then
    let left := here.braces - 1
    let w :=
      if left = 0 ∧ here.endsWithBrace then { w with context := { here with braces := left } }.leave
      else { w with context := { here with
        braces := left
        bracesInDouble := here.bracesInDouble - 1 } }
    w.closePart
  else w.addChar '\x7d'

/-- A closing bracket of an expression; two of them end it. -/
def closeBracket (w : Draft) : Reading Draft := do
  let here := w.context
  if here.brackets != 0 then
    return { w.addChar ')' with context := { here with brackets := here.brackets - 1 } }
  else if ← accept ')' then return w.leave.closePart
  else return w.addChar ')'

/-- The command between back quotes. A backslash in it stands for itself unless it
is before one of these, a dollar sign or another backslash. -/
def betweenBackQuotes (inDouble : Bool) : Reading Text :=
  repeatUntil (fun taken => do
    match ← peek with
    | none => fault "EOF in backquote substitution".toList
    | some '\\' =>
      skip 1
      match (← rest).head? with
      | none => fault "EOF in backquote substitution".toList
      | some c =>
        skip 1
        if c = '\\' ∨ c = backQuote ∨ c = '$' ∨ (inDouble ∧ c = '"') then return .inl (c :: taken)
        else return .inl (c :: '\\' :: taken)
    | some c =>
      skip 1
      if c = backQuote then return .inr taken.reverse else return .inl (c :: taken)) limit []

def within {α : Type} (script : Text) (reading : Reading α) : Reading α := do
  let outer ← get
  set { outer with rest := script, line := 1, pushedBack := none, announced := [], substitutes := [] }
  let a ← reading
  modify fun inner => { outer with
    documents := inner.documents
    nextDocument := inner.nextDocument }
  return a

/-- Goes on by one character, which is not counted if it is a line feed. -/
def skipUncounted : Reading Unit := modify fun s => { s with rest := s.rest.drop 1 }

/-- The name of a parameter between braces, and what is asked of it so far: the
length after a number sign, unless this is itself the parameter. -/
def bracedName : Reading (Option Text × Form) := do
  let digits := Numeral.isDigit
  let ordinary (c : Char) : Reading (Option Text) := do
    if startsName c then return some (← takeWhile inName limit)
    else if digits c then return some (← takeWhile digits limit)
    else return none
  match ← peek with
  | none => return (none, .invalid)
  | some c =>
    match ← ordinary c with
    | some name => return (some name, .value)
    | none =>
      if c = '\x7d' then return (none, .invalid)
      else
        skipUncounted
        if c != '#' then
          return if isSpecialParameter c then (some [c], .value) else (none, .invalid)
        else
          match ← peek with
          | none => return (some ['#'], .value)
          | some d =>
            match ← ordinary d with
            | some name => return (some name, .length)
            | none =>
              if d = '\x7d' ∨ !isSpecialParameter d then return (some ['#'], .value)
              else
                let before ← get
                skip 1
                if (← peek) = some '\x7d' then return (some [d], .length)
                else
                  set before
                  return (some ['#'], .value)

/-- What is asked of a parameter whose name has been read; none where the braces
end, so that its value is wanted. -/
def bracedForm : Reading (Option Form) := do
  let emptyToo ← accept ':'
  match ← peek with
  | none => return some .invalid
  | some c =>
    skipUncounted
    if c = '\x7d' then return if emptyToo then some .value else none
    else if c = '-' then return some (.default emptyToo)
    else if c = '=' then return some (.assign emptyToo)
    else if c = '?' then return some (.require emptyToo)
    else if c = '+' then return some (.instead emptyToo)
    else if !emptyToo ∧ c = '%' then return some (.cutEnd (← accept '%'))
    else if !emptyToo ∧ c = '#' then return some (.cutStart (← accept '#'))
    else return some .invalid

/-- Begins a parameter between braces whose word is still to be read. -/
def openParameter (name : Text) (form : Form) (w : Draft) : Draft :=
  let here := w.context
  let quoting : Quoting := match form with
    | .cutStart _ => .none
    | .cutEnd _ => .none
    | _ => if here.quoting = .arithmetic then .double else here.quoting
  let w := if quoting ≠ here.quoting ∨ here.innerDouble then w.enter (.start quoting true) else w
  let context := { w.context with
    braces := w.context.braces + 1
    bracesInDouble := w.context.bracesInDouble + if w.context.inDouble then 1 else 0 }
  ({ w with context := context } : Draft).openPart (.parameter name form)

def braced (w : Draft) : Reading Draft := do
  match ← bracedName with
  | (none, _) => return openParameter [] .invalid w
  | (some name, .length) =>
    if (← peek) = some '\x7d' then return openParameter name .length w
    else return openParameter name .invalid w
  | (some name, _) =>
    match ← bracedForm with
    | none => return w.add (.parameter name .value [])
    | some form => return openParameter name form w

def dollar (commands : Reading Command) (kind : Kind) (w : Draft) : Reading Draft := do
  skip 1
  match ← peek with
  | none => return w.addChar '$'
  | some c =>
    if kind = .delimiter then return w.addChar '$'
    else if c = '(' then
      skip 1
      if ← accept '(' then
        return (w.enter (.start .arithmetic false)).openPart .arithmetic
      else return w.add (.output (← commands))
    else if c = '\x7b' then
      skip 1
      braced w
    else if startsName c then return w.add (.parameter (← takeWhile inName limit) .value [])
    else if Numeral.isDigit c || isSpecialParameter c then
      skip 1
      return w.add (.parameter [c] .value [])
    else return w.addChar '$'

/-- Reads the next character of a word, with what it begins. `commands` reads the
commands between brackets, with the closing one, and `script` those of a script. -/
def step (commands script : Reading Command) (kind : Kind) (w : Draft) : Step := do
  let here := w.context
  let next ← if here.quoting = .single then List.head? <$> rest else peek
  match next with
  | none => return .inr w
  | some '\n' => lineFeed kind w
  | some c =>
    if here.quoting = .single then
      skip 1
      return .inl (if c = singleQuote then closeQuote kind c w else w.addChar c)
    else if c = '\\' then backslash kind w
    else if c = '$' then return .inl (← dollar commands kind w)
    else if c = '\x7d' then
      skip 1
      return .inl (closeBrace w)
    else if c = backQuote ∧ kind ≠ .delimiter then
      skip 1
      let inside ← betweenBackQuotes here.inDouble
      return .inl (w.add (.output (← within inside script)))
    else match here.quoting with
      | .arithmetic =>
        skip 1
        if c = ')' then return .inl (← closeBracket w)
        else if c = '(' then
          return .inl { w.addChar c with context := { here with brackets := here.brackets + 1 } }
        else return .inl (w.addChar c)
      | .double =>
        skip 1
        return .inl (if c = '"' then closeQuote kind c w else w.addChar c)
      | _ =>
        if endsWord c ∧ here.braces = 0 then return .inr w
        else
          skip 1
          if c = singleQuote then return .inl (openQuote kind .single w)
          else if c = '"' then return .inl (openQuote kind .double w)
          else return .inl (w.addChar c)

def checkEnded (kind : Kind) (w : Draft) : Reading Unit := do
  if w.context.quoting = .arithmetic then fault "Missing '))'".toList
  else if w.context.quoting ≠ .none ∧ !kind.isDocument then fault "Unterminated quoted string".toList
  else if w.context.braces ≠ 0 then fault "Missing '\x7d'".toList

def word (commands script : Reading Command) (kind : Kind) : Reading (Word × Bool) := do
  let w ← repeatUntil (step commands script kind) limit (.start .none)
  checkEnded kind w
  return (w.word, w.quoted)

def document (commands script : Reading Command) (a : Announcement) : Reading Word := do
  let kind : Kind := .document a.delimiter a.withoutTabs
  let w : Draft := .start (if a.expands then .double else .single)
  if ← atDelimiter kind then return []
  else
    let w ← repeatUntil (step commands script kind) limit w
    checkEnded kind w
    return w.word

end Words

end DiskPrep.Machine.Shell
