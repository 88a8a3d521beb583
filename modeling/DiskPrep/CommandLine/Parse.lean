import DiskPrep.CommandLine.Options
import DiskPrep.Text.Numeral

/-!
Reading a command line from left to right. A value is stored when the argument
after it is read, so the first fault in the order of the arguments is the one
reported; an unknown argument is reported before a fault in a value that still
waits to be stored. Help and version end the reading where they stand.
-/
namespace DiskPrep.CommandLine

/-- Why there is no request. -/
inductive Refusal where
  /-- No option has this name, or there is one argument too many. -/
  | unknownArgument
  /-- A value is missing or empty. -/
  | missingValue
  /-- A value is not an integer of 64 bits. -/
  | notInteger
  /-- An option stands twice. -/
  | repeated
  /-- A switch was given a value. -/
  | unwantedValue
  /-- Help was asked for, in full or as a summary. -/
  | help (full : Bool)
  /-- The version was asked for. -/
  | version
  deriving DecidableEq, Repr

/-- A value that is not stored yet. -/
inductive Pending where
  | nothing
  /-- The error number is to be the next argument. -/
  | errnoAwaited
  | errno (raw : Text)
  | disk (raw : Text)
  deriving DecidableEq, Repr

structure Progress where
  request : Request
  pending : Pending
  /-- Only paths follow. -/
  optionsEnded : Bool
  deriving DecidableEq, Repr

namespace Progress

def start : Progress := ⟨.empty, .nothing, false⟩

/-- Integers of 64 bits reach to this value, which is not one of them. -/
def integerLimit : Nat := 9223372036854775808

def settle (p : Progress) : Except Refusal Progress :=
  match p.pending with
  | .nothing => .ok p
  | .errnoAwaited => .error .missingValue
  | .errno raw =>
    if p.request.errno.isSome then .error .repeated
    else match Numeral.signed? integerLimit raw with
      | none => .error .notInteger
      | some n => .ok { p with request := { p.request with errno := some n }, pending := .nothing }
  | .disk raw =>
    if raw.isEmpty then .error .missingValue
    else .ok { p with request := { p.request with disk := some ⟨raw⟩ }, pending := .nothing }

def turnOn (p : Progress) (switch : Switch) : Except Refusal Progress := do
  let p ← p.settle
  if p.request.isOn switch then .error .repeated
  else return { p with request := p.request.turnOn switch }

/-- Takes an error number that is part of the argument itself. -/
def attach (p : Progress) (raw : Text) : Except Refusal Progress := do
  let p ← p.settle
  { p with pending := .errno raw }.settle

/-- Takes the option of an error number that is to follow. -/
def awaitErrno (p : Progress) : Except Refusal Progress := do
  let p ← p.settle
  return { p with pending := .errnoAwaited }

/-- Ends the reading with what help or version ask for. -/
def stop (p : Progress) (refusal : Refusal) : Except Refusal Progress := do
  let _ ← p.settle
  .error refusal

/-- Takes an argument that is no option. There is room for one. -/
def takeDisk (p : Progress) (raw : Text) : Except Refusal Progress :=
  let taken := p.request.disk.isSome || match p.pending with
    | .disk _ => true
    | _ => false
  if taken then .error .unknownArgument
  else do
    let p ← p.settle
    return { p with pending := .disk raw }

/-- Takes an argument that is no option name: the error number if one is awaited. -/
def takeValue (p : Progress) (raw : Text) : Except Refusal Progress :=
  match p.pending with
  | .errnoAwaited => .ok { p with pending := .errno raw }
  | _ => p.takeDisk raw

/-- Reads `name` or `name=value` after two dashes. -/
def readLong (p : Progress) (body : Text) : Except Refusal Progress :=
  let name := body.takeWhile (· != '=')
  let value : Option Text := (body.dropWhile (· != '=')).tail?
  match optionSpecs.find? fun o => o.long.toList == name with
  | none => .error .unknownArgument
  | some o =>
    match o.meaning, value with
    | .errno, some raw => p.attach raw
    | .errno, none => p.awaitErrno
    | _, some _ => .error .unwantedValue
    | .switch switch, none => p.turnOn switch
    | .help, none => p.stop (.help true)
    | .version, none => p.stop .version

/-- Reads the letters after one dash. What follows the letter of the error number
is its value, after an equals sign if there is one. -/
def readShort (p : Progress) : Text → Except Refusal Progress
  | [] => .ok p
  | letter :: rest =>
    match optionSpecs.find? fun o => o.short == letter with
    | none => .error .unknownArgument
    | some o =>
      match o.meaning with
      | .switch switch => do
        let p ← p.turnOn switch
        readShort p rest
      | .errno =>
        match rest with
        | [] => p.awaitErrno
        | '=' :: raw => p.attach raw
        | raw => p.attach raw
      | .help => p.stop (.help false)
      | .version => p.stop .version

end Progress

/-- Where the reading of a number stands, while it is told from an option. -/
structure NumberShape where
  pointAllowed : Bool
  exponentAllowed : Bool
  lastIsExponent : Bool

/-- The characters are digits with at most one point and, after it or without it,
at most one `e`; neither comes first, and the `e` not last. -/
def looksNumeric (shape : NumberShape) : Text → Bool
  | [] => !shape.lastIsExponent
  | c :: rest =>
    if Numeral.isDigit c then looksNumeric { shape with lastIsExponent := false } rest
    else if c = '.' && shape.pointAllowed then
      looksNumeric { shape with pointAllowed := false, lastIsExponent := false } rest
    else if c = 'e' && shape.exponentAllowed then
      looksNumeric ⟨false, false, true⟩ rest
    else false

/-- What follows a dash makes it a negative number, not a group of options. -/
def isNumber : Text → Bool
  | c :: rest => Numeral.isDigit c && looksNumeric ⟨true, true, false⟩ rest
  | [] => true

def Progress.read (p : Progress) (argument : Text) : Except Refusal Progress :=
  if p.optionsEnded then p.takeDisk argument
  else match argument with
    | ['-', '-'] => .ok { p with optionsEnded := true }
    | '-' :: '-' :: body => p.readLong body
    | '-' :: c :: letters =>
      if p.pending = .errnoAwaited ∧ isNumber (c :: letters) then p.takeValue argument
      else p.readShort (c :: letters)
    | _ => p.takeValue argument

def parse (arguments : List Text) : Except Refusal Request := do
  let p ← arguments.foldlM Progress.read .start
  return (← p.settle).request

end DiskPrep.CommandLine
