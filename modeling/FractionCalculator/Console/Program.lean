import FractionCalculator.Console.Session

/-!
# The console program

The program takes at most one argument, the name of a log level. It runs one
session on its standard input and writes the admitted records, one line each, to
its standard error. The level decides which records are written and nothing else.
-/

namespace FractionCalculator.Console

open Log (Verbosity)

inductive ArgumentError where
  | unknownLogLevel (argument : Text)
  | tooManyArguments (count : Nat)
deriving DecidableEq, Repr

namespace ArgumentError

def code : ArgumentError → Text
  | .unknownLogLevel _ => "UnknownLogLevel".toList
  | .tooManyArguments _ => "TooManyArguments".toList

def message : ArgumentError → Text
  | .unknownLogLevel argument => "Unrecognized log level: ".toList ++ argument
  | .tooManyArguments count =>
    "Expected at most 1 argument (log level) but found ".toList ++ Decimal.ofNat count

def report (e : ArgumentError) : Text :=
  let detail := match e with
    | .unknownLogLevel argument => argument.quoted
    | .tooManyArguments count => Decimal.ofNat count
  "Error: ".toList ++ e.code ++ '(' :: detail ++ [')', '\n']

end ArgumentError

def verbosity : List Text → Except ArgumentError Verbosity
  | [] => .ok (.upTo .debug)
  | [argument] =>
    match Verbosity.parse? argument with
    | some v => .ok v
    | none => .error (.unknownLogLevel argument)
  | arguments => .error (.tooManyArguments arguments.length)

structure Exit where
  code : Nat
  output : Text
  errors : Text
deriving DecidableEq, Repr

namespace Program

def calculator : Calculator :=
  ⟨Query.defaultLimit, "calculator::console".toList⟩

def started (v : Verbosity) : Log.Record :=
  Session.note .trace ("Logger initiated at ".toList ++ v.name)

def ended : Log.Record :=
  Session.note .trace "Exiting calculator".toList

def records (v : Verbosity) (session : Transcript) : List Log.Record :=
  started v :: session.records ++ [ended]

def write (v : Verbosity) (records : List Log.Record) : Text :=
  (Log.admitted v records).flatMap (·.line)

def run (arguments : List Text) (stream : List UInt8) : Exit :=
  match verbosity arguments with
  | .error e => ⟨1, [], e.report⟩
  | .ok v =>
    let session := Session.run calculator stream
    ⟨0, session.output, write v (records v session)⟩

end Program
end FractionCalculator.Console
