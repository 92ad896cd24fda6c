import FractionCalculator.Console.Program

/-!
# The console on a terminal

Runs the console program line by line, so that each prompt is shown before its
line is read. What is written is what the program writes on the whole input.
-/

namespace FractionCalculator.Main

open Console

partial def readLine (input : IO.FS.Stream) (read : List UInt8) : IO (List UInt8) := do
  match (← input.read 1).toList with
  | [] => return read.reverse
  | b :: _ => if b = Line.lineFeed then return (b :: read).reverse else readLine input (b :: read)

def put (v : Log.Verbosity) (part : Transcript) : IO Unit := do
  let output ← IO.getStdout
  output.putStr (String.ofList part.output)
  output.flush
  (← IO.getStderr).putStr (String.ofList (Program.write v part.records))

partial def converse (v : Log.Verbosity) (input : IO.FS.Stream) : IO Unit := do
  match Line.read (← readLine input []) with
  | [] => return
  | line :: _ =>
    if Session.quits line then return
    put v (Session.exchange Program.calculator line)
    converse v input

end FractionCalculator.Main

open FractionCalculator FractionCalculator.Console FractionCalculator.Main in
def main (arguments : List String) : IO UInt32 := do
  match verbosity (arguments.map String.toList) with
  | .error e =>
    (← IO.getStderr).putStr (String.ofList e.report)
    return 1
  | .ok v =>
    put v ⟨[], [Program.started v]⟩
    put v Session.opening
    converse v (← IO.getStdin)
    put v ⟨[], [Program.ended]⟩
    return 0
