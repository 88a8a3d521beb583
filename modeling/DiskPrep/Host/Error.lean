import DiskPrep.Errno

/-!
Why a request to the host failed, and the two ways a failure is shown: as a
sentence that names its kind, and as the diagnostic that the operator needs.
-/
namespace DiskPrep

inductive SystemError where
  /-- A call returned this error number. -/
  | number (errno : Int)
  /-- A program argument holds the character that ends arguments. -/
  | zeroInArgument
  /-- A file name holds the character that ends file names. -/
  | zeroInFileName
  deriving DecidableEq, Repr

def SystemError.text : SystemError → Text
  | number errno => Errno.systemMessage errno
  | zeroInArgument => "nul byte found in provided data".toList
  | zeroInFileName => "file name contained an unexpected NUL byte".toList

/-- The causes for which a host gives no answer. -/
inductive HostError where
  /-- The tool is not installed. -/
  | commandNotFound (program : Text)
  /-- The tool ran and failed; without a code it was ended by a signal. -/
  | commandFailed (program : Text) (code : Option Int) (output : Text)
  /-- The operating system refused an operation. -/
  | system (cause : SystemError)
  /-- A system call returned this error number. -/
  | errno (number : Int)
  /-- A report does not have the expected form. -/
  | malformed (reason : Text)
  /-- Any other reason, said in full. -/
  | other (reason : Text)
  deriving DecidableEq, Repr

namespace HostError

/-- An exit code, or the word for its absence. -/
def exitText : Option Int → Text
  | some code => "Some(".toList ++ signedDecimal code ++ [')']
  | none => "None".toList

/-- The failure as a sentence that names its kind. -/
def message : HostError → Text
  | commandNotFound program => "Command not found: ".toList ++ program
  | commandFailed program code output =>
    "Command failed: ".toList ++ program ++ " (exit=".toList ++ exitText code ++ "): ".toList ++ output
  | system cause => "I/O error: ".toList ++ cause.text
  | errno number => "nix errno: ".toList ++ Errno.described number
  | malformed reason => "Parse error: ".toList ++ reason
  | other reason => reason

/-- What the operator is told: the tool's own output when it printed any. -/
def diagnostic : HostError → Text
  | commandNotFound program => program ++ ": No such file or directory".toList
  | commandFailed program code output =>
    if output.isEmpty then program ++ " exited with ".toList ++ exitText code else output
  | system cause => cause.text
  | errno number => Errno.description number
  | error => error.message

end HostError

end DiskPrep
