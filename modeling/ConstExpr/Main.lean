import ConstExpr.CommandLine

/-!
# The executable

Reads the file that the command line names, and prints the answer of the run.
-/
namespace ConstExpr.CommandLine

/-- The reason why a file cannot be read, in words. -/
def reason : IO.Error → String
  | .noFileOrDirectory .. => "No such file or directory (os error 2)"
  | .permissionDenied .. => "Permission denied (os error 13)"
  | .inappropriateType .. => "Is a directory (os error 21)"
  | error => error.toString

/-- The text of a file, or the reason why it cannot be read. -/
def load (path : String) : IO (Except String String) := do
  try return .ok (← IO.FS.readFile path)
  catch error => return .error (reason error)

/-- Runs the command line, and gives the exit status. -/
def execute (arguments : List String) : IO UInt32 := do
  match parse? arguments with
  | none =>
    IO.eprintln usage
    return 2
  | some (invocation, path) =>
    let answer := invocation.run path (← load path)
    IO.print answer.output
    IO.eprint answer.errors
    return if answer.succeeded then 0 else 1

end ConstExpr.CommandLine

/-- Runs the command line with the arguments of the process. -/
def main (arguments : List String) : IO UInt32 := ConstExpr.CommandLine.execute arguments
