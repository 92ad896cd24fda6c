import FractionCalculator.Text

/-!
# Log records

A record says what was done: its level, the target it is sent to, the part of
the program it comes from and one message. A verbosity admits the records up to
a level, or none. The records that it admits are written by a library, env_logger,
which is not part of the program: it is assumed to write each of them on one line
for each line of its message, in the form given here, the time left out.
-/

namespace FractionCalculator.Log

inductive Level where
  | error
  | warn
  | info
  | debug
  | trace
deriving DecidableEq, Repr

def Level.name : Level → Text
  | .error => "ERROR".toList
  | .warn => "WARN".toList
  | .info => "INFO".toList
  | .debug => "DEBUG".toList
  | .trace => "TRACE".toList

def Level.rank : Level → Nat
  | .error => 1
  | .warn => 2
  | .info => 3
  | .debug => 4
  | .trace => 5

inductive Verbosity where
  | off
  | upTo (level : Level)
deriving DecidableEq, Repr

namespace Verbosity

def name : Verbosity → Text
  | .off => "OFF".toList
  | .upTo level => level.name

def rank : Verbosity → Nat
  | .off => 0
  | .upTo level => level.rank

def admits (v : Verbosity) (level : Level) : Bool :=
  level.rank ≤ v.rank

def names : List (Text × Verbosity) :=
  [("off".toList, .off), ("error".toList, .upTo .error), ("warn".toList, .upTo .warn),
    ("info".toList, .upTo .info), ("debug".toList, .upTo .debug), ("trace".toList, .upTo .trace),
    ("fatal".toList, .upTo .error)]

def dropUnderscore (t : Text) : Text :=
  if t.getLast? = some '_' then t.dropLast else t

def parse? (t : Text) : Option Verbosity :=
  names.lookup ((dropUnderscore t).map Char.toLower)

end Verbosity

inductive Origin where
  | engine
  | console
deriving DecidableEq, Repr

def Origin.name : Origin → Text
  | .engine => "engine".toList
  | .console => "console".toList

structure Record where
  level : Level
  target : Text
  origin : Origin
  message : Text
deriving DecidableEq, Repr

def Record.line (r : Record) : Text :=
  '[' :: r.level.name.rightpad 5 ' ' ++ ' ' :: r.origin.name ++ "] ".toList ++ r.message ++ ['\n']

def admitted (v : Verbosity) (records : List Record) : List Record :=
  records.filter (v.admits ·.level)

end FractionCalculator.Log
