import DiskPrep.Machine.Shell.Expansion

/-!
Redirections: files are opened and descriptors are led elsewhere, in order. What a
command redirects holds for that command; a failure is one of the command.
-/
namespace DiskPrep.Machine.Shell

/-- What a complaint says where there is nothing at a path. -/
inductive Purpose where
  | open
  | create
  | execute
  deriving DecidableEq, Repr

def Purpose.reason (purpose : Purpose) (cause : SystemError) : Text :=
  match cause with
  | .number errno =>
    if errno = notFound ∨ errno = notDirectory then
      match purpose with
      | .open => "No such file".toList
      | .create => "Directory nonexistent".toList
      | .execute => "not found".toList
    else Errno.systemDescription errno
  | cause => cause.text

namespace Access

def rights : Access → List Right
  | read => [.read]
  | update => [.read, .write]
  | _ => [.write]

def creates : Access → Bool
  | read => false
  | _ => true

def empties : Access → Bool
  | truncate => true
  | overwrite => true
  | _ => false

end Access

/-- The mode that a new file has before the mask takes rights away. -/
def newFileMode : Nat := 0o666

def maskedMode (mode mask : Nat) : Nat := mode &&& (0o777 - mask % 0o1000)

namespace State

/-- Opens what a location has. Nothing can be written to a device that is full. -/
def openNode (s : State) (access : Access) (location : Location) (node : Node) :
    Except SystemError (Nat × State) :=
  if node.isDirectory && access != .read then .error (.number isDirectory)
  else if !access.rights.all node.allows then .error (.number notPermitted)
  else match node with
    | .device _ =>
      if location = ["dev".toList, "tty".toList] then .error (.number 6)
      else if location = ["dev".toList, "full".toList] then .ok (s.openStream (.waiting []))
      else .ok (s.openStream .nowhere)
    | .file _ mode =>
      let s := if access.empties then { s with tree := s.tree.put location (.file [] mode) } else s
      .ok (s.openStream (.file location 0 access))
    | .directory _ => .ok (s.openStream (.file location 0 access))

/-- What is at a path is opened and never made, since files are protected from being
emptied and it is none. -/
def opensExisting (s : State) (access : Access) (path : Text) : Bool :=
  access == .truncate && s.isOn 'C' && (descriptorOf? path).isNone && match s.resolve path with
    | .ok (_, node) => !node.isFile
    | .error _ => false

/-- Opens what is at a location; a file that is protected is not emptied. -/
def openFound (s : State) (access : Access) (location : Location) (node : Node) :
    Except SystemError (Nat × State) :=
  if access = .truncate && s.isOn 'C' && node.isFile then .error (.number alreadyExists)
  else s.openNode access location node

/-- Opens a path, and gives the stream and the state after it. The path of a descriptor
opens anew what the descriptor leads to. -/
def openPath (s : State) (access : Access) (path : Text) : Except SystemError (Nat × State) :=
  match descriptorOf? path with
  | some descriptor =>
    match s.stream? descriptor with
    | some (n, stream) =>
      match stream with
      | .file location _ _ =>
        match s.tree.find? location with
        | some node => s.openFound access location node
        | none => .ok (n, s)
      | _ => .ok (n, s)
    | none => .error (.number notFound)
  | none =>
    match s.resolve path with
    | .ok (location, node) => s.openFound access location node
    | .error (.number errno) =>
      let asksDirectory := path.getLast? == some '/'
      if access.creates && (errno == notFound || asksDirectory) && !path.isEmpty then do
        let location ← s.tree.freeLocation s.directory (Text.ofBytewise path)
        let tree := s.tree.put location (.file [] (maskedMode newFileMode s.mask))
        return { s with tree := tree }.openStream (.file location 0 access)
      else .error (.number errno)
    | .error cause => .error cause

end State

namespace Redirection

/-- A redirection whose words are expanded, except for a text that is put in. -/
inductive Plan where
  | file (access : Access) (path : Text)
  | descriptor (number : Nat)
  | closed
  | document (number : Nat)
  deriving DecidableEq, Repr

def expand (run : Runner) (redirections : List Redirection) : Action (List (Nat × Plan)) :=
  redirections.mapM fun (descriptor, target) => do
    match target with
    | .file access path => return (descriptor, .file access (← Expansion.text run .single path))
    | .descriptor number => return (descriptor, .descriptor number)
    | .closed => return (descriptor, .closed)
    | .document number => return (descriptor, .document number)
    | .named word =>
      match ← Expansion.text run .single word with
      | ['-'] => return (descriptor, .closed)
      | name =>
        if name.length = 1 && name.all Numeral.isDigit then
          return (descriptor, .descriptor (Numeral.value name))
        else
          modify fun s => { s with line := s.readLine }
          Action.fail "Syntax error: Bad fd number".toList

/-- Carries a redirection out. If the descriptor is kept for later, it has been closed
by the time that another one turns out not to be open. -/
def perform (run : Runner) (keeps : Bool) (descriptor : Nat) (plan : Plan) : Action Unit := do
  let s ← get
  match plan with
  | .closed => set (s.close descriptor)
  | .descriptor number =>
    if number ≠ descriptor then
      match s.stream? number with
      | some (n, _) => set (s.lead descriptor n)
      | none =>
        if keeps then set (s.close descriptor)
        Action.fail (decimal number ++ ": ".toList ++ Errno.systemDescription 9)
  | .document number =>
    let word := ((s.documents.find? fun d => d.1 == number).map Prod.snd).getD []
    let text ← Expansion.text run .document word
    let (n, s) := (← get).openStream (.waiting text)
    set (s.lead descriptor n)
  | .file access path =>
    match s.openPath access path with
    | .ok (n, s) => set (s.lead descriptor n)
    | .error cause =>
      let (verb, purpose) : Text × Purpose :=
        if access.creates && !s.opensExisting access path then ("create".toList, .create) else ("open".toList, .open)
      Action.fail ("cannot ".toList ++ verb ++ ' ' :: path ++ ": ".toList ++ purpose.reason cause)

def isIdle (descriptor : Nat) (plan : Plan) : Bool := plan == .descriptor descriptor

/-- Carries redirections out; the answer says whether all of them could be. What the
descriptors led to is kept for later if they end with a command. -/
def performAll (run : Runner) (ends : Bool) (plans : List (Nat × Plan)) : Action Bool := do
  let all : Action (List Nat) := plans.foldlM (fun (kept : List Nat) (descriptor, plan) => do
    perform run (ends && !kept.contains descriptor) descriptor plan
    return if isIdle descriptor plan then kept else descriptor :: kept) []
  match ← Action.attempt all with
  | .ok _ => return true
  | .error .failed => return false
  | .error interrupt => throw interrupt

end Redirection

end DiskPrep.Machine.Shell
