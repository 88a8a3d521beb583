import DiskPrep.Machine.Interpreter
import DiskPrep.Machine.Shell.Redirection
import DiskPrep.Machine.Shell.Switches

/-!
What the name of a command means: a function, a command that is part of the language,
or a program in one of the directories where programs are looked for.
-/
namespace DiskPrep.Machine.Shell

/-- Commands that are part of the language, other than the special ones. -/
def ordinaryNames : List Text :=
  ["[", "alias", "bg", "cd", "chdir", "command", "echo", "false", "fg", "getopts", "hash", "jobs",
    "kill", "printf", "pwd", "read", "test", "true", "type", "ulimit", "umask", "unalias",
    "wait"].map String.toList

inductive Meaning where
  | function (body : Command)
  | builtin (isSpecial : Bool)
  | program (path : Text)
  /-- Nothing, for this reason. -/
  | nothing (cause : SystemError)

namespace Lookup

/-- The path where programs are looked for if a script does not say it. -/
def defaultPath : Text :=
  "/usr/local/sbin:/usr/local/bin:/usr/sbin:/usr/bin:/sbin:/bin".toList

def directories (path : Text) : List Text := path.splitOn ':'

def within (directory name : Text) : Text :=
  if directory.isEmpty then name else directory ++ '/' :: name

/-- A file of a name in the directories of a path; if there is none, why. -/
def search (s : State) (path name : Text) (wanted : Node → Bool) : Except SystemError Text :=
  (directories path).foldr (fun directory rest =>
    let candidate := within directory name
    match s.resolve candidate with
    | .ok (_, node) =>
      if node.isFile && wanted node then .ok candidate
      else rest.mapError fun
        | .number errno => if errno = notFound then .number notPermitted else .number errno
        | cause => cause
    | .error (.number errno) =>
      if errno = notFound ∨ errno = notDirectory then rest
      else rest.mapError fun cause => if cause = .number notFound then .number errno else cause
    | .error _ => rest) (.error (.number notFound))

def currentPath (s : State) : Text := (s.valueOf? "PATH".toList).getD []

def meaning (s : State) (functions : Bool) (path name : Text) : Meaning :=
  if name.contains '/' then .program name
  else match s.functions.find? fun f => functions && f.1 == name with
    | some (_, body) => .function body
    | none =>
      if specialNames.contains name then .builtin true
      else if ordinaryNames.contains name then .builtin false
      else match search s path name fun node => node.allows .execute with
        | .ok path => .program path
        | .error cause => .nothing cause

def remember (name path : Text) : Action Unit := do
  let s ← get
  let unknown := !s.found.any fun f => f.1 == name
  if unknown && !name.contains '/' then set { s with found := s.found ++ [(name, path)] }

/-- What a command says about a name, in one line or in short, and its status. A
program that is found on the path of the script is remembered. -/
def describe (path : Option Text) (inFull : Bool) (name : Text) : Action (Text × Nat) := do
  let s ← get
  let said (long short : Text) : Action (Text × Nat) :=
    return (if inFull then name ++ long ++ ['\n'] else short ++ ['\n'], 0)
  let missing : Text × Nat := (if inFull then name ++ ": not found\n".toList else [], 127)
  if reservedWords.contains name then said " is a shell keyword".toList name
  else match s.aliases.find? fun a => a.1 == name with
    | some (_, value) =>
      said (" is an alias for ".toList ++ value)
        ("alias ".toList ++ name ++ '=' :: quoted value)
    | none =>
      match meaning s true (path.getD (currentPath s)) name with
      | .function _ => said " is a shell function".toList name
      | .builtin true => said " is a special shell builtin".toList name
      | .builtin false => said " is a shell builtin".toList name
      | .program place =>
        let known := path.isNone && s.found.any fun f => f.1 == name
        let how := if known then " is a tracked alias for ".toList else " is ".toList
        if (s.resolve place).isOk then
          if path.isNone then remember name place
          said (how ++ place) place
        else return missing
      | .nothing _ => return missing

end Lookup

end DiskPrep.Machine.Shell
