import DiskPrep.Machine.Shell.Run

/-!
Starting a tool, which is a file in the directory where tools are looked for.
-/
namespace DiskPrep.Machine

inductive StartFailure where
  | missing
  | refused (cause : SystemError)
  deriving DecidableEq, Repr

def runTool (tree : FileTree) (program : Text) (arguments : List Text) :
    Except StartFailure Shell.Finished :=
  let path := FileTree.toolDirectory ++ '/' :: program
  if arguments.any fun a => a.contains '\x00' then .error (.refused .zeroInArgument)
  else match Image.find tree FileTree.workLocation (Text.bytewise path)
      (arguments.map Text.bytewise) with
    | .ok image => .ok (Shell.finish tree image)
    | .error (.number errno) =>
      if errno = notFound then .error .missing
      else .error (.refused (.number errno))
    | .error cause => .error (.refused cause)

end DiskPrep.Machine
