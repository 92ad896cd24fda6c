import FractionCalculator.Calculator
import FractionCalculator.Console.Line

/-!
# Console sessions

A session shows a banner and then a prompt before each line it takes. An answered
query is shown on the output, a rejected one is reported by a record, and so is a
line that is no text; the session goes on with the next line until one quits. No
line has an effect on another.
-/

namespace FractionCalculator.Console

structure Transcript where
  output : Text
  records : List Log.Record
deriving DecidableEq, Repr

namespace Transcript

def append (s t : Transcript) : Transcript :=
  ⟨s.output ++ t.output, s.records ++ t.records⟩

instance : Append Transcript := ⟨append⟩

def errors (t : Transcript) : List Text :=
  (t.records.filter (·.level = .error)).map (·.message)

end Transcript

namespace Session

def quitWord : Text := ['Q']

def bannerLines : List String :=
  ["********************************************************************************",
    "* Fractional Calculator                                                        *",
    "* Query format is \"Operand1 Operation Operand2\"                                *",
    "* Valid operations are \x7b +, -, *, / \x7d                                          *",
    "* Operands are of the form \x7b A, -B, C/D, -E/F, G_H/I, -J_K/L \x7d                 *",
    "* Every component and intermediate value is limited to a signed 32-bit integer *",
    "********************************************************************************"]

def banner : Text :=
  bannerLines.flatMap fun line => line.toList ++ ['\n']

def prompt : Text :=
  "Enter Arithmetic Query or \"".toList ++ quitWord ++ "\" to Quit: \n? ".toList

def note (level : Log.Level) (message : Text) : Log.Record :=
  ⟨level, "console".toList, .console, message⟩

def quits : Line → Bool
  | .text t => t.trimEnd = quitWord
  | .unreadable => false

def reply (c : Calculator) : Line → Transcript
  | .text t =>
    let traced := c.execute t
    match traced.outcome with
    | .ok answer => ⟨"= ".toList ++ answer ++ ['\n'], traced.records⟩
    | .error cause => ⟨[], traced.records ++ [note .error cause.message]⟩
  | .unreadable =>
    ⟨[], [note .error "Unreadable query: stream did not contain valid UTF-8".toList]⟩

def taken (lines : List Line) : List Line :=
  lines.takeWhile (!quits ·)

def exchange (c : Calculator) (line : Line) : Transcript :=
  reply c line ++ ⟨prompt, []⟩

def replies (c : Calculator) : List Line → Transcript
  | [] => ⟨[], []⟩
  | line :: rest => exchange c line ++ replies c rest

def opening : Transcript :=
  ⟨banner ++ '\n' :: prompt, []⟩

def run (c : Calculator) (stream : List UInt8) : Transcript :=
  opening ++ replies c (taken (Line.read stream))

end Session
end FractionCalculator.Console
