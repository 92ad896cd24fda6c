import FractionCalculator.Text.Hexadecimal

/-!
# Request targets

A target is a path from the root, then a query after a question mark or none.
Both are ASCII: letters, digits, percent signs and the marks of their kind, the
query having a few more. The segments of the path are what stands between its
slashes, empty ones left out, percent escapes decoded. These are the rules that the
web framework, rocket, is assumed to follow: it brings a path into its normal form,
without empty segments, before it looks for a route.
-/

namespace FractionCalculator.Service.Target

def isPathChar (c : Char) : Bool :=
  c.isAlphanum || "-._~%!$&'()*+,;=:@/[]".toList.contains c

def isQueryChar (c : Char) : Bool :=
  isPathChar c || "?\x7b\x7d\\^`|".toList.contains c

def path? (target : Text) : Option Text :=
  let path := target.takeWhile (· ≠ '?')
  let query := target.dropWhile (· ≠ '?')
  if path.head? = some '/' ∧ path.all isPathChar ∧ query.all isQueryChar then some path else none

/-- The bytes of a segment, its percent escapes decoded. A percent sign without two digits stands
for itself. -/
def decode : Text → List UInt8
  | '%' :: h :: l :: r =>
    match Hexadecimal.pair? h l with
    | some n => UInt8.ofNat n :: decode r
    | none => String.utf8EncodeChar '%' ++ decode (h :: l :: r)
  | c :: r => String.utf8EncodeChar c ++ decode r
  | [] => []
termination_by t => t.length

def segments (path : Text) : List (List UInt8) :=
  ((path.splitOn '/').filter (· ≠ [])).map decode

end FractionCalculator.Service.Target
