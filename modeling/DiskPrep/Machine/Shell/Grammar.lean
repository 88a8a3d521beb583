import DiskPrep.Machine.Shell.Words

/-!
Reading a script's tokens into commands. Commands stand in commands, and also in
words; so each reader here takes the readers of what stands inside as an argument,
and the last definition ties them together for any depth.
-/
namespace DiskPrep.Machine.Shell

def reservedWords : List Text :=
  ["if".toList, "then".toList, "else".toList, "elif".toList, "fi".toList, "while".toList,
    "until".toList, "for".toList, "in".toList, "do".toList, "done".toList, "case".toList,
    "esac".toList, ['\x7b'], ['\x7d'], ['!']]

def closingWords : List Text :=
  ["then".toList, "else".toList, "elif".toList, "fi".toList, "do".toList, "done".toList,
    "esac".toList, ['\x7d']]

/-- Names of the commands that no function can take the place of. -/
def specialNames : List Text :=
  [['.'], [':'], "break".toList, "continue".toList, "eval".toList, "exec".toList, "exit".toList,
    "export".toList, "local".toList, "readonly".toList, "return".toList, "set".toList,
    "shift".toList, "times".toList, "trap".toList, "unset".toList]

namespace Token

def isOperator (text : Text) : Token → Bool
  | operator other => other == text
  | _ => false

def isReserved (text : Text) : Token → Bool
  | reserved other => other == text
  | _ => false

/-- The token can stand after a list of commands. -/
def endsList : Token → Bool
  | ending => true
  | operator text => text == [')'] || text == ";;".toList
  | reserved text => closingWords.contains text
  | _ => false

end Token

/-- What the next token may be read as: line feeds before it may be left out, it
may be a reserved word, and it may be a name for something else. -/
structure Expected where
  newlines : Bool
  reserved : Bool
  aliases : Bool
  deriving DecidableEq, Repr

def anyToken : Expected := ⟨false, false, false⟩

def commandHere : Expected := ⟨false, true, true⟩

/-- Where a command may begin, also on a later line. -/
def commandAhead : Expected := ⟨true, true, true⟩

inductive Extent where
  /-- With its line. -/
  | line
  /-- With a token that closes it; there is a command. -/
  | body
  /-- With a token that closes it. -/
  | optional
  deriving DecidableEq, Repr

/-- The readers of what stands inside of commands and words. -/
structure Grammar where
  commands : Extent → Reading Command
  command : Expected → Reading Command

namespace Grammar

open Reading

def readAnnounced (reader : Announcement → Reading Word) : Reading Unit := do
  let announced := (← get).announced
  modify fun s => { s with announced := [] }
  for a in announced do
    let parts ← reader a
    modify fun s => { s with documents := s.documents ++ [(a.number, parts)] }

/-- The announced texts for which nothing is left to be read. -/
def endAnnounced : Reading Unit := readAnnounced fun _ => return []

/-- The token that was read too early. -/
def takeBack? : Reading (Option Token) := do
  let token := (← get).pushedBack
  modify fun s => { s with pushedBack := none }
  return token

/-- The commands of a script that stands between back quotes. -/
def script (g : Grammar) : Reading Command := do
  let body ← g.commands .optional
  endAnnounced
  return body

def bracketed (g : Grammar) : Reading Command := do
  let outer := (← get).announced
  modify fun s => { s with announced := [] }
  let body ← g.commands .optional
  let token := (← takeBack?).getD .ending
  if token.isOperator [')'] then
    endAnnounced
    modify fun s => { s with announced := outer }
    return body
  else unexpected token (some (.operator [')']))

def wordToken (g : Grammar) (kind : Kind) : Reading Token := do
  let (parts, quoted) ← Words.word g.bracketed g.script kind
  let next ← peek
  let digits := parts.length ≤ 1 && (parts.mapM WordPart.plain?).any fun t => t.all Numeral.isDigit
  if (next = some '<' ∨ next = some '>') ∧ !quoted ∧ digits then
    skip 1
    let descriptor := (parts.mapM WordPart.plain?).bind Numeral.ofDigits?
    if next = some '>' then
      if ← accept '>' then return .redirection descriptor ">>".toList
      else if ← accept '|' then return .redirection descriptor ">|".toList
      else if ← accept '&' then return .redirection descriptor ">&".toList
      else return .redirection descriptor ['>']
    else if ← accept '<' then
      if ← accept '-' then return .redirection descriptor "<<-".toList
      else return .redirection descriptor "<<".toList
    else if ← accept '&' then return .redirection descriptor "<&".toList
    else if ← accept '>' then return .redirection descriptor "<>".toList
    else return .redirection descriptor ['<']
  else return .word parts quoted

def skipBlanks : Reading Unit :=
  repeatUntil (fun _ => do
    match ← peek with
    | some ' ' => skip 1; return .inl ()
    | some '\t' => skip 1; return .inl ()
    | some '#' => skip ((← rest).takeWhile (· != '\n')).length; return .inl ()
    | _ => return .inr ()) limit ()

def nextToken (g : Grammar) (kind : Kind) : Reading Token := do
  match ← takeBack? with
  | some token => return token
  | none =>
    skipBlanks
    match ← peek with
    | none => return .ending
    | some '\n' => skip 1; return .newline
    | some c =>
      if c = '&' ∨ c = '|' ∨ c = ';' then
        skip 1
        if ← accept c then return .operator [c, c] else return .operator [c]
      else if c = '(' ∨ c = ')' then skip 1; return .operator [c]
      else g.wordToken kind

/-- The word that comes next may be a name for something else because the text
that another such name stood for has ended in a blank. -/
def aliasGoesOn : Reading Bool := do
  let s ← get
  if s.pushedBack.isSome || s.substitutes.isEmpty then return false
  else
    skipBlanks
    let s ← get
    return s.substitutes.any fun a => a.goesOn && s.rest.length ≤ a.left

/-- The text that a name stands for, unless it is being read already. -/
def aliasOf? (name : Text) : Reading (Option Text) := do
  let s ← get
  if s.substitutes.any fun a => a.name == name && a.left ≤ s.rest.length then return none
  else return (s.aliases.find? fun a => a.1 == name).map Prod.snd

def substitute (name text : Text) : Reading Unit :=
  modify fun s => { s with
    rest := text ++ s.rest
    substitutes := ⟨name, s.rest.length, text.getLast?.any fun c => c == ' ' || c == '\t'⟩ ::
      s.substitutes.filter fun a => a.left ≤ s.rest.length }

def token (g : Grammar) (expected : Expected) (kind : Kind) : Reading Token :=
  repeatUntil (fun _ => do
    let goesOn ← aliasGoesOn
    if goesOn then
      modify fun s => { s with substitutes := s.substitutes.map fun a => { a with
        goesOn := a.goesOn && a.left < s.rest.length } }
    let token ← g.nextToken kind
    match token with
    | .newline =>
      if expected.newlines then
        readAnnounced (Words.document g.bracketed g.script)
        return .inl ()
      else return .inr token
    | .word parts false =>
      match Word.plain? parts with
      | none => return .inr token
      | some text =>
        if expected.reserved ∧ reservedWords.contains text then return .inr (.reserved text)
        else if expected.aliases || goesOn then
          match ← aliasOf? text with
          | some value =>
            substitute text value
            return .inl ()
          | none => return .inr token
        else return .inr token
    | token => return .inr token) limit ()

/-- The characters of a delimiter, without its quotes. -/
def delimiterText : Word → Text
  | [] => []
  | .plain c :: rest => c :: delimiterText rest
  | .quoted c :: rest => c :: delimiterText rest
  | .group parts :: rest => parts.filterMap quotedChar? ++ delimiterText rest
  | _ :: rest => delimiterText rest
where
  /-- The character of a piece that is one. -/
  quotedChar? : WordPart → Option Char
    | .plain c => some c
    | .quoted c => some c
    | _ => none

def redirection (g : Grammar) (descriptor : Option Nat) (sign : Text) : Reading Redirection := do
  let isText := sign == "<<".toList || sign == "<<-".toList
  let standard := if sign.head? = some '<' then 0 else 1
  let number := descriptor.getD standard
  match ← g.token anyToken (if isText then .delimiter else .word) with
  | .word parts quoted =>
    if isText then
      let s ← get
      let a : Announcement :=
        ⟨s.nextDocument, delimiterText parts, sign == "<<-".toList, !quoted⟩
      set { s with nextDocument := s.nextDocument + 1, announced := s.announced ++ [a] }
      return (number, .document s.nextDocument)
    else if sign = ">&".toList ∨ sign = "<&".toList then
      match Word.plain? parts with
      | some ['-'] => return (number, .closed)
      | some [c] =>
        return (number, if Numeral.isDigit c then .descriptor (Numeral.value [c]) else .named parts)
      | _ => return (number, .named parts)
    else
      let access : Access :=
        if sign = ['<'] then .read
        else if sign = "<>".toList then .update
        else if sign = ">>".toList then .append
        else if sign = ">|".toList then .overwrite
        else .truncate
      return (number, .file access parts)
  | token => unexpected token none

/-- As many redirections as come next. A reserved word is none after a redirection. -/
def redirections (g : Grammar) : Reading (List Redirection) :=
  repeatUntil (fun taken => do
    match ← g.token (if taken.isEmpty then commandHere else anyToken) .word with
    | .redirection descriptor sign => return .inl (taken ++ [← g.redirection descriptor sign])
    | token =>
      pushBack token
      return .inr taken) limit []

def function (g : Grammar) (name : Word) : Reading Command := do
  let token ← g.token anyToken .word
  if !token.isOperator [')'] then unexpected token (some (.operator [')']))
  else match Word.plain? name with
    | some name =>
      if isName name ∧ !specialNames.contains name then
        return .define name (← g.command commandAhead)
      else fault "Bad function name".toList
    | none => fault "Bad function name".toList

structure Simple where
  assignments : List (Text × Word)
  words : List Word
  redirections : List Redirection

/-- A simple command: assignments, words and redirections in any mixture, as long
as the assignments come before the words. -/
def simpleCommand (g : Grammar) : Reading Command := do
  let line := (← get).line
  repeatUntil (fun (c : Simple) => do
    let token ← g.token ⟨false, false, c.words.isEmpty⟩ .word
    match token with
    | .word parts _ =>
      match c.words, Word.assignment? parts with
      | [], some a => return .inl { c with assignments := c.assignments ++ [a] }
      | words, _ => return .inl { c with words := words ++ [parts] }
    | .redirection descriptor sign =>
      let r ← g.redirection descriptor sign
      return .inl { c with redirections := c.redirections ++ [r] }
    | token =>
      match token.isOperator ['('], c with
      | true, ⟨[], [name], []⟩ => return .inr (← g.function name)
      | _, _ =>
        pushBack token
        return .inr (.simple line c.assignments c.words c.redirections)) limit ⟨[], [], []⟩

def expect (g : Grammar) (wanted : Token) (found : Token → Bool) (expected : Expected) :
    Reading Unit := do
  let token ← g.token expected .word
  if found token then return () else unexpected token (some wanted)

def expectReserved (g : Grammar) (text : Text) (expected : Expected) : Reading Unit :=
  g.expect (.reserved text) (Token.isReserved text) expected

def branch (g : Grammar) : Nat → Reading Command
  | 0 => fault "Out of space".toList
  | limit + 1 => do
    let condition ← g.commands .body
    g.expectReserved "then".toList anyToken
    let yes ← g.commands .body
    let token ← g.token anyToken .word
    if token.isReserved "elif".toList then return .branch condition yes (← branch g limit)
    else if token.isReserved "else".toList then
      let no ← g.commands .body
      return .branch condition yes no
    else
      pushBack token
      return .branch condition yes .nothing

def loop (g : Grammar) (wanted : Bool) : Reading Command := do
  let condition ← g.commands .body
  g.expectReserved "do".toList anyToken
  let body ← g.commands .body
  return .loop wanted condition body

/-- The words up to the end of a line or a semicolon. -/
def wordList (g : Grammar) : Reading (List Word) :=
  repeatUntil (fun taken => do
    match ← g.token anyToken .word with
    | .word parts _ => return .inl (taken ++ [parts])
    | .newline => return .inr taken
    | token => if token.isOperator [';'] then return .inr taken else unexpected token none)
    limit []

/-- All arguments, each a word of its own. -/
def allArguments : Word := [.group [.parameter ['@'] .value []]]

def forEach (g : Grammar) (line : Nat) : Reading Command := do
  match ← g.token anyToken .word with
  | .word parts false =>
    match (Word.plain? parts).filter isName with
    | none => fault "Bad for loop variable".toList
    | some name =>
      let token ← g.token commandAhead .word
      let words ←
        if token.isReserved "in".toList then g.wordList
        else do
          if !token.isOperator [';'] then pushBack token
          pure [allArguments]
      g.expectReserved "do".toList commandAhead
      let body ← g.commands .body
      return .forEach line name words body
  | _ => fault "Bad for loop variable".toList

/-- The patterns of an arm, of which the first token has been read. -/
def patterns (g : Grammar) (first : Token) : Reading (List Word) :=
  repeatUntil (fun (taken, token) => do
    let pattern : Word := match token with
      | .word parts _ => parts
      | .reserved text => text.map .plain
      | _ => []
    let after ← g.token anyToken .word
    if after.isOperator ['|'] then
      return .inl (taken ++ [pattern], ← g.token anyToken .word)
    else if after.isOperator [')'] then return .inr (taken ++ [pattern])
    else unexpected after (some (.operator [')']))) limit (([] : List Word), first)

def choose (g : Grammar) (line : Nat) : Reading Command := do
  match ← g.token anyToken .word with
  | .word subject _ =>
    g.expectReserved "in".toList commandAhead
    let armHere : Expected := ⟨true, true, false⟩
    repeatUntil (fun (arms : List (List Word × Command)) => do
      let token ← g.token armHere .word
      if token.isReserved "esac".toList then return .inr (.choose line subject arms)
      else
        let first ← if token.isOperator ['('] then g.token anyToken .word else pure token
        let patterns ← g.patterns first
        let body ← g.commands .optional
        let arms := arms ++ [(patterns, body)]
        let token ← g.token armHere .word
        if token.isReserved "esac".toList then return .inr (.choose line subject arms)
        else if token.isOperator ";;".toList then return .inl arms
        else unexpected token (some (.operator ";;".toList))) limit []
  | token => unexpected token (some (.word [] false))

def withRedirections (line : Nat) (body : Command) (redirections : List Redirection) : Command :=
  match body, redirections with
  | body, [] => body
  | .subshell line body _, redirections => .subshell line body redirections
  | body, redirections => .redirected line body redirections

def readCommand (g : Grammar) (expected : Expected) : Reading Command := do
  let line := (← get).line
  let token ← g.token expected .word
  let closed (body : Command) : Reading Command := do
    return withRedirections line body (← g.redirections)
  match token with
  | .word .. =>
    pushBack token
    g.simpleCommand
  | .redirection .. =>
    pushBack token
    g.simpleCommand
  | .reserved text =>
    if text = "if".toList then
      let body ← g.branch limit
      g.expectReserved "fi".toList anyToken
      closed body
    else if text = "while".toList ∨ text = "until".toList then
      let body ← g.loop (text == "while".toList)
      g.expectReserved "done".toList anyToken
      closed body
    else if text = "for".toList then
      let body ← g.forEach line
      g.expectReserved "done".toList anyToken
      closed body
    else if text = "case".toList then closed (← g.choose line)
    else if text = ['\x7b'] then
      let body ← g.commands .body
      g.expectReserved ['\x7d'] anyToken
      closed body
    else unexpected token none
  | token =>
    if token.isOperator ['('] then
      let body ← g.commands .body
      g.expect (.operator [')']) (Token.isOperator [')']) anyToken
      closed (.subshell line body [])
    else unexpected token none

/-- Commands of which each reads what the one before it writes. -/
def pipeline (g : Grammar) (expected : Expected) : Reading Command := do
  let token ← g.token expected .word
  let negated := token.isReserved ['!']
  if !negated then pushBack token
  let first ← g.readCommand (if negated then commandHere else anyToken)
  let body ← repeatUntil (fun (taken : List Command) => do
    let token ← g.token anyToken .word
    if token.isOperator ['|'] then return .inl (taken ++ [← g.readCommand commandAhead])
    else
      pushBack token
      return .inr (match taken with
        | [only] => only
        | taken => .pipeline taken)) limit [first]
  return if negated then .negated body else body

/-- Pipelines of which each runs if the one before it ended well, or did not. -/
def andOr (g : Grammar) : Reading Command := do
  let first ← g.pipeline anyToken
  repeatUntil (fun (left : Command) => do
    let token ← g.token anyToken .word
    if token.isOperator "&&".toList then return .inl (.both left (← g.pipeline commandAhead))
    else if token.isOperator "||".toList then return .inl (.either left (← g.pipeline commandAhead))
    else
      pushBack token
      return .inr left) limit first

def readCommands (g : Grammar) (extent : Extent) : Reading Command := do
  let expected : Expected := if extent = .line then commandHere else commandAhead
  let documents : Reading Unit := readAnnounced (Words.document g.bracketed g.script)
  repeatUntil (fun (taken : Option Command × Bool) => do
    let (before, mayEnd) := taken
    let result := before.getD .nothing
    match ← g.token expected .word with
    | .newline =>
      documents
      return .inr result
    | .ending =>
      documents
      pushBack .ending
      return .inr result
    | token =>
      pushBack token
      if mayEnd ∧ token.endsList then return .inr result
      else
        let command ← g.andOr
        let after ← g.token anyToken .word
        let command := if after.isOperator ['&'] then .background command else command
        let joined := match before with
          | some before => .sequence before command
          | none => command
        match after with
        | .ending =>
          documents
          pushBack .ending
          return .inr joined
        | .newline =>
          pushBack after
          return .inl (some joined, extent != .line)
        | after =>
          if after.isOperator ['&'] ∨ after.isOperator [';'] then
            return .inl (some joined, extent != .line)
          else if extent = .line then unexpected after none
          else
            pushBack after
            return .inr joined) limit (none, extent == .optional)

/-- The readers for commands that are nested so deeply at most. -/
def ofDepth : Nat → Grammar
  | 0 => ⟨fun _ => fault "Out of space".toList, fun _ => fault "Out of space".toList⟩
  | depth + 1 =>
    ⟨fun extent => (ofDepth depth).readCommands extent,
      fun expected => (ofDepth depth).readCommand expected⟩

end Grammar

def depthLimit : Nat := 5000

namespace Source

def start (text : Text) (line nextDocument : Nat) (aliases : List (Text × Text)) : Source where
  rest := text
  line := line
  pushedBack := none
  announced := []
  documents := []
  nextDocument := nextDocument
  aliases := aliases
  substitutes := []

/-- The commands of the next line that has any, unless the script ends before. An
empty line is a command that does nothing. -/
def nextCommand? (s : Source) : Except SyntaxError (Option Command × Source) := do
  let (command, s) ← ((Grammar.ofDepth depthLimit).readCommands .line).run { s with pushedBack := none }
  match command, s.pushedBack with
  | .nothing, some .ending => return (none, s)
  | command, _ => return (some command, s)

/-- A delimiter that no script has a line of. -/
def noDelimiter : Text := ['\x00']

/-- The whole text as one in which parameters and commands are put in. -/
def quotedText (s : Source) : Except SyntaxError Word := do
  let g := Grammar.ofDepth depthLimit
  let (word, _) ← (Words.document g.bracketed g.script ⟨0, noDelimiter, false, true⟩).run s
  return word

end Source

end DiskPrep.Machine.Shell
