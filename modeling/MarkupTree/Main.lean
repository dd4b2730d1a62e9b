import MarkupTree.CommandLine.System
import Std.Time

/-!
# The program

Reads arguments, standard input and files, lets the library decide what the run comes to, and prints
it.
-/

namespace MarkupTree.CommandLine

/-- A refusal of the system, in the library's words if it has any. The sign of the number does not
count. -/
def refusalOf (code : UInt32) (details : String) : OpenError :=
  let number := if code.toNat < Nat.pow 2 31 then code.toNat else Nat.pow 2 32 - code.toNat
  let known : List OpenError := [.notDirectory, .isDirectory, .nameTooLong, .permissionDenied]
  (known.find? (·.number? = some number)).getD (.refused number details)

/-- Why the system did not open a file. -/
def openErrorOf : IO.Error → OpenError
  | .noFileOrDirectory .. => .notFound
  | .inappropriateType _ code details => refusalOf code details
  | .permissionDenied _ code details => refusalOf code details
  | .resourceExhausted _ code details => refusalOf code details
  | .invalidArgument _ code details => refusalOf code details
  | .otherError code details => refusalOf code details
  | other => .refused 0 (toString other)

/-- The document that settings ask for. -/
def readInput (settings : Settings) : IO (Except OpenError (List UInt8)) := do
  match settings.render with
  | none => return .ok []
  | some render =>
    try
      let bytes ←
        if render.source = standardInput then (← IO.getStdin).readBinToEnd
        else IO.FS.readBinFile render.source
      return .ok bytes.toList
    catch e => return .error (openErrorOf e)

/-- The time stamp of log lines. -/
def timeStamp : IO String := do
  let now ← Std.Time.PlainDateTime.now
  return now.format "uuuu-MM-dd HH:mm:ss,SSS"

/-- Prints what a run leaves behind. -/
def finish (run : Run) : IO UInt32 := do
  (← IO.getStderr).putStr run.errors
  (← IO.getStdout).putStr run.output
  return run.status.toUInt32

/-- Prints how a run ends. -/
def conclude : Ending → IO UInt32
  | .finished run => finish run
  | .aborted cause errors => finish ⟨1, "", errors ++ cause.message ++ "\n"⟩

end MarkupTree.CommandLine

open MarkupTree.CommandLine

/-- Runs the program. -/
def main (arguments : List String) : IO UInt32 := do
  match readSettings arguments with
  | .error run => finish run
  | .ok settings =>
    let input ← readInput settings
    match settings.execute (.usual input) (← timeStamp) input with
    | .ok ending => conclude ending
    | .error e => finish ⟨1, "", e.message ++ "\n"⟩
