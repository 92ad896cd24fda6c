import FractionCalculator.Json
import FractionCalculator.Text.Hexadecimal

/-!
# JSON strings

Writing escapes the quote, the backslash and the characters below the space, and
leaves all else as it is. Reading goes item by item, an item being a character
or a unit of sixteen bits given by four hexadecimal digits; units make characters
alone or as a pair of surrogates. A string that is passed over needs well-formed
items only.
-/

namespace FractionCalculator.Json

def escape (c : Char) : Text :=
  match c with
  | '"' => ['\\', '"']
  | '\\' => ['\\', '\\']
  | '\x08' => ['\\', 'b']
  | '\t' => ['\\', 't']
  | '\n' => ['\\', 'n']
  | '\x0c' => ['\\', 'f']
  | '\r' => ['\\', 'r']
  | c => if c.toNat < 0x20 then ['\\', 'u', '0', '0'] ++ Hexadecimal.ofByte c.toNat else [c]

def quote (t : Text) : Text :=
  '"' :: t.flatMap escape ++ ['"']

inductive Item where
  | plain (c : Char)
  | unit (n : Nat)
  | close
deriving DecidableEq, Repr

/-- Reads a unit. It takes four bytes, so a text with fewer ends too early, whatever it holds. -/
def scanUnit (t : Text) : Scan Item :=
  if (Text.utf8 (t.take 4)).length < 4 then .error .cutShort
  else
    match t with
    | a :: b :: c :: d :: r =>
      match Hexadecimal.quad? a b c d with
      | some n => .ok (.unit n, r)
      | none => .error .illFormed
    | _ => .error .illFormed

def scanEscape : Text → Scan Item
  | [] => .error .cutShort
  | 'b' :: r => .ok (.plain '\x08', r)
  | 'f' :: r => .ok (.plain '\x0c', r)
  | 'n' :: r => .ok (.plain '\n', r)
  | 'r' :: r => .ok (.plain '\r', r)
  | 't' :: r => .ok (.plain '\t', r)
  | 'u' :: r => scanUnit r
  | c :: r => if c = '"' ∨ c = '\\' ∨ c = '/' then .ok (.plain c, r) else .error .illFormed

def scanItem : Text → Scan Item
  | [] => .error .cutShort
  | '"' :: r => .ok (.close, r)
  | '\\' :: r => scanEscape r
  | c :: r => if c.toNat < 0x20 then .error .illFormed else .ok (.plain c, r)

theorem length_scanUnit {t r : Text} {item : Item} (h : scanUnit t = .ok (item, r)) :
    r.length < t.length := by
  unfold scanUnit at h
  split at h
  · cases h
  · split at h
    · split at h <;> cases h
      simp only [List.length_cons]; omega
    · cases h

theorem length_scanEscape {t r : Text} {item : Item} (h : scanEscape t = .ok (item, r)) :
    r.length < t.length := by
  unfold scanEscape at h
  split at h
  case h_1 => cases h
  case h_7 => exact Nat.lt_succ_of_lt (length_scanUnit h)
  case h_8 => split at h <;> cases h; simp
  all_goals cases h; simp

theorem length_scanItem {t r : Text} {item : Item} (h : scanItem t = .ok (item, r)) :
    r.length < t.length := by
  unfold scanItem at h
  split at h
  · cases h
  · cases h; simp
  · exact Nat.lt_succ_of_lt (length_scanEscape h)
  · split at h <;> cases h; simp

def isHighSurrogate (n : Nat) : Bool :=
  0xd800 ≤ n && n ≤ 0xdbff

def isLowSurrogate (n : Nat) : Bool :=
  0xdc00 ≤ n && n ≤ 0xdfff

def pairChar (high low : Nat) : Char :=
  Char.ofNat (0x10000 + (high - 0xd800) * 0x400 + (low - 0xdc00))

def Scan.cons (c : Char) : Scan Text → Scan Text
  | .ok (cs, r) => .ok (c :: cs, r)
  | .error fault => .error fault

theorem Scan.of_cons {c : Char} {x : Scan Text} {cs r : Text} (h : Scan.cons c x = .ok (cs, r)) :
    ∃ rest, x = .ok (rest, r) ∧ cs = c :: rest := by
  unfold Scan.cons at h
  split at h <;> cases h
  exact ⟨_, rfl, rfl⟩

def scanRest (high : Option Nat) (t : Text) : Scan Text :=
  match _h : scanItem t with
  | .error fault => .error fault
  | .ok (item, r) =>
    match high, item with
    | none, .close => .ok ([], r)
    | none, .plain c => Scan.cons c (scanRest none r)
    | none, .unit n =>
      if isLowSurrogate n then .error .illFormed
      else if isHighSurrogate n then scanRest (some n) r
      else Scan.cons (Char.ofNat n) (scanRest none r)
    | some high, .unit low =>
      if isLowSurrogate low then Scan.cons (pairChar high low) (scanRest none r)
      else .error .illFormed
    | some _, _ => .error .illFormed
termination_by t.length
decreasing_by all_goals exact length_scanItem _h

def scanString (t : Text) : Scan Text :=
  scanRest none t

theorem length_scanRest {high : Option Nat} {t cs r : Text}
    (h : scanRest high t = .ok (cs, r)) : r.length < t.length := by
  fun_induction scanRest high t generalizing cs with
  | case1 | case4 | case8 | case9 => cases h
  | case2 t r' hi => cases h; exact length_scanItem hi
  | case3 _ _ _ _ hi ih | case6 _ _ _ _ _ _ hi ih | case7 _ _ _ _ _ _ hi ih =>
    obtain ⟨_, hr, _⟩ := Scan.of_cons h
    exact Nat.lt_trans (ih hr) (length_scanItem hi)
  | case5 _ _ _ _ _ _ hi ih => exact Nat.lt_trans (ih h) (length_scanItem hi)

theorem length_scanString {t cs r : Text} (h : scanString t = .ok (cs, r)) :
    r.length < t.length :=
  length_scanRest h

def skipString (t : Text) : Except Fault Text :=
  match _h : scanItem t with
  | .error fault => .error fault
  | .ok (.close, r) => .ok r
  | .ok (_, r) => skipString r
termination_by t.length
decreasing_by exact length_scanItem _h

theorem length_skipString {t r : Text} (h : skipString t = .ok r) : r.length < t.length := by
  fun_induction skipString t with
  | case1 => cases h
  | case2 t r' hs => cases h; exact length_scanItem hs
  | case3 t r' item hs hi ih => exact Nat.lt_trans (ih h) (length_scanItem hi)

end FractionCalculator.Json
