import FractionCalculator.Text

/-!
# Lines

A byte stream is cut into lines at each line feed. A line feed takes one carriage
return before it away; bytes after the last line feed are a line as they stand,
unless there are none. A line is text if it is UTF-8.
-/

namespace FractionCalculator.Console

inductive Line where
  | text (t : Text)
  | unreadable
deriving DecidableEq, Repr

namespace Line

def lineFeed : UInt8 := 0x0a

def carriageReturn : UInt8 := 0x0d

def dropReturn (bytes : List UInt8) : List UInt8 :=
  if bytes.getLast? = some carriageReturn then bytes.dropLast else bytes

def cut (stream : List UInt8) : List (List UInt8) :=
  let pieces := stream.splitOn lineFeed
  pieces.dropLast.map dropReturn ++ pieces.getLast?.toList.filter (· ≠ [])

def ofBytes (bytes : List UInt8) : Line :=
  match Text.ofUtf8? bytes with
  | some t => .text t
  | none => .unreadable

def read (stream : List UInt8) : List Line :=
  (cut stream).map ofBytes

end Line
end FractionCalculator.Console
