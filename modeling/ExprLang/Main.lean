import ExprLang.CommandLine
import ExprLang.CommandLine.ReadFailure

/-! The program: runs its command line and prints the report. -/

open ExprLang

/-- The reason that the system gives for not reading a file. -/
def failureReason (e : IO.Error) : String :=
  match e with
  | .noFileOrDirectory .. => ReadFailure.missing.message
  | .permissionDenied .. => ReadFailure.denied.message
  | .inappropriateType _ code _ =>
    if code = 20 then ReadFailure.notFolder.message else ReadFailure.isFolder.message
  | .invalidArgument _ 36 _ => ReadFailure.nameTooLong.message
  | e => toString e

/-- The text of a file, or why it cannot be read. -/
def readText (path : String) : IO (Except String String) := do
  try return .ok (← IO.FS.readFile path)
  catch e => return .error (failureReason e)

def main (args : List String) : IO UInt32 := do
  let report ← CommandLine.run readText Recent.room args
  IO.print report.stdout
  IO.eprint report.stderr
  return .ofNat report.exitCode
