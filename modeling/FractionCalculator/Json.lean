import FractionCalculator.Text

/-!
# Reading JSON

Readers go through a text from left to right and stop at the first fault. Each
gives what it read and the rest of the text. A fault is of one of three kinds: the
text breaks the grammar, it ends too early, or it holds a value of another kind
than the one due or has a field missing or repeated. The text up to it decides
which.

Messages are written and read by a library, serde_json, which is not part of the
program. The rules of this module and of those below it are the ones that the
library is assumed to follow: the grammar of JSON, what it escapes, and which
fault it reports.
-/

namespace FractionCalculator.Json

inductive Fault where
  | illFormed
  | cutShort
  | misfit
deriving DecidableEq, Repr

abbrev Scan (α : Type) := Except Fault (α × Text)

def isBlank (c : Char) : Bool :=
  c = ' ' || c = '\t' || c = '\n' || c = '\r'

def skipBlanks (t : Text) : Text :=
  t.dropWhile isBlank

theorem length_skipBlanks_le (t : Text) : (skipBlanks t).length ≤ t.length :=
  (List.dropWhile_sublist isBlank).length_le

def expect (c : Char) (t : Text) : Except Fault Text :=
  match skipBlanks t with
  | [] => .error .cutShort
  | d :: r => if d = c then .ok r else .error .illFormed

theorem length_expect {c : Char} {t r : Text} (h : expect c t = .ok r) :
    r.length < t.length := by
  have := length_skipBlanks_le t
  unfold expect at h
  split at h
  · cases h
  · next hs =>
    rw [hs] at this
    split at h <;> cases h
    exact Nat.lt_of_succ_le this

def skipWord : Text → Text → Except Fault Text
  | [], t => .ok t
  | _ :: _, [] => .error .cutShort
  | w :: word, c :: t => if c = w then skipWord word t else .error .illFormed

theorem skipWord_eq_ok_iff {word t r : Text} : skipWord word t = .ok r ↔ t = word ++ r := by
  induction word generalizing t with
  | nil => simp [skipWord, eq_comm]
  | cons w word ih =>
    cases t with
    | nil => simp [skipWord]
    | cons c t =>
      by_cases h : c = w
      · simp [skipWord, h, ih]
      · simp [skipWord, h]

end FractionCalculator.Json
