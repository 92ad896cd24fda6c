import FractionCalculator.Text

/-!
# Request methods

The methods that have routes are named without regard to the case of ASCII
letters. A posted form may name another method as the one that is meant, by a
first field with the key `_method`; no more of the form is read than the longest
such field takes. These are the rules that the web framework, rocket, is assumed to
follow.
-/

namespace FractionCalculator.Service

inductive Method where
  | get
  | head
  | post
deriving DecidableEq, Repr

namespace Method

def names : List (Text × Method) :=
  [("GET".toList, .get), ("HEAD".toList, .head), ("POST".toList, .post)]

def parse? (t : Text) : Option Method :=
  names.lookup (t.map Char.toUpper)

def firstKey (name : Text) : Text :=
  let plain (t : Text) := t.takeWhile fun c => c ≠ '.' ∧ c ≠ '['
  match name with
  | '.' :: r => plain r
  | '[' :: r =>
    let key := r.takeWhile fun c => c ≠ ']' ∧ c ≠ '.'
    if (r.drop key.length).head? = some '.' then '[' :: key else key
  | name => plain name

def shortestForm : Nat := "_method=get".length

def longestForm : Nat := "_method=delete".length

def ofForm? (body : List UInt8) : Option Method := do
  let start := body.take longestForm
  if start.length < shortestForm then none
  else
    let t ← Text.ofUtf8? start
    let field ← (t.splitOn '&').find? (· ≠ [])
    let name := field.takeWhile (· ≠ '=')
    if firstKey name = "_method".toList then parse? (field.drop (name.length + 1)) else none

end Method
end FractionCalculator.Service
