import FractionCalculator.Json

/-!
# JSON numbers

A number is digits without a leading zero, then a fraction and an exponent or
not. A number that is passed over may have any size. One that is read has to be
in the range of double precision, its digits taken while they fit 64 bits.
-/

namespace FractionCalculator.Json

structure Numeral where
  integral : Text
  fraction : Text
  exponent : Int
deriving DecidableEq, Repr

abbrev Judgement := Text → Fault

def passing : Judgement :=
  fun _ => .illFormed

def reading : Judgement :=
  fun t => if t = [] then .cutShort else .illFormed

def scanDigits (missing : Judgement) (t : Text) : Scan Text :=
  let digits := t.takeWhile Char.isDigit
  if digits = [] then .error (missing t) else .ok (digits, t.dropWhile Char.isDigit)

def scanIntegral (missing : Judgement) (t : Text) : Scan Text :=
  match t with
  | '0' :: r => if r.head?.any Char.isDigit then .error .illFormed else .ok (['0'], r)
  | t => scanDigits missing t

def scanFraction (missing : Judgement) (t : Text) : Scan Text :=
  match t with
  | '.' :: r => scanDigits missing r
  | t => .ok ([], t)

def splitExponentSign : Text → Bool × Text
  | '+' :: r => (false, r)
  | '-' :: r => (true, r)
  | r => (false, r)

def scanExponent (missing : Judgement) (t : Text) : Scan Int :=
  match t with
  | c :: r =>
    if c = 'e' ∨ c = 'E' then
      let (negative, r) := splitExponentSign r
      match scanDigits missing r with
      | .error fault => .error fault
      | .ok (digits, r) =>
        let n : Int := Nat.ofDigitChars 10 digits 0
        .ok (if negative then -n else n, r)
    else .ok (0, c :: r)
  | [] => .ok (0, [])

def scanNumeral (missing : Judgement) (t : Text) : Except Fault (Numeral × Text) := do
  let (integral, r) ← scanIntegral missing t
  let (fraction, r) ← scanFraction missing r
  let (exponent, r) ← scanExponent missing r
  return (⟨integral, fraction, exponent⟩, r)

theorem length_scanDigits {missing : Judgement} {t digits r : Text}
    (h : scanDigits missing t = .ok (digits, r)) : r.length < t.length := by
  unfold scanDigits at h
  dsimp only at h
  split at h
  · cases h
  · next hd =>
    cases h
    have := congrArg List.length (List.takeWhile_append_dropWhile (p := Char.isDigit) (l := t))
    have := List.length_pos_iff.2 hd
    simp only [List.length_append] at *
    omega

theorem length_scanIntegral {missing : Judgement} {t digits r : Text}
    (h : scanIntegral missing t = .ok (digits, r)) : r.length < t.length := by
  unfold scanIntegral at h
  split at h
  · split at h <;> cases h
    simp
  · exact length_scanDigits h

theorem length_scanFraction {missing : Judgement} {t digits r : Text}
    (h : scanFraction missing t = .ok (digits, r)) : r.length ≤ t.length := by
  unfold scanFraction at h
  split at h
  · exact Nat.le_succ_of_le (Nat.le_of_lt (length_scanDigits h))
  · cases h; exact Nat.le_refl _

theorem length_splitExponentSign (t : Text) : (splitExponentSign t).2.length ≤ t.length := by
  unfold splitExponentSign
  split <;> simp

theorem length_scanExponent {missing : Judgement} {t r : Text} {n : Int}
    (h : scanExponent missing t = .ok (n, r)) : r.length ≤ t.length := by
  unfold scanExponent at h
  split at h
  · next c u =>
    split at h
    · have := length_splitExponentSign u
      dsimp only at h
      split at h
      · cases h
      · next hd =>
        cases h
        have := length_scanDigits hd
        simp only [List.length_cons]
        omega
    · cases h; exact Nat.le_refl _
  · cases h; exact Nat.le_refl _

theorem length_scanNumeral {missing : Judgement} {t r : Text} {n : Numeral}
    (h : scanNumeral missing t = .ok (n, r)) : r.length < t.length := by
  unfold scanNumeral at h
  cases hi : scanIntegral missing t with
  | error => rw [hi] at h; cases h
  | ok i =>
    obtain ⟨integral, r₁⟩ := i
    rw [hi] at h
    cases hf : scanFraction missing r₁ with
    | error => simp [bind, Except.bind, hf] at h
    | ok f =>
      obtain ⟨fraction, r₂⟩ := f
      cases he : scanExponent missing r₂ with
      | error => simp [bind, Except.bind, hf, he] at h
      | ok e =>
        obtain ⟨exponent, r₃⟩ := e
        simp only [bind, Except.bind, hf, he, pure, Except.pure, Except.ok.injEq,
          Prod.mk.injEq] at h
        have := length_scanIntegral hi
        have := length_scanFraction hf
        have := length_scanExponent he
        rw [← h.2]
        omega

/-! ## The range of double precision -/

def wordBound : Nat := 0x10000000000000000

def takeDigits (n : Nat) : Text → Nat × Text
  | [] => (n, [])
  | d :: ds =>
    let next := 10 * n + (d.toNat - '0'.toNat)
    if next < wordBound then takeDigits next ds else (n, d :: ds)

/-- The nearest number of at most 53 significant bits, a tie going to the even neighbour. -/
def nearest53 (n : Nat) : Nat :=
  let unit := Nat.pow 2 (n.log2 - 52)
  let q := n / unit
  let r := n % unit
  let up := unit < 2 * r ∨ (unit = 2 * r ∧ q % 2 = 1)
  (if up then q + 1 else q) * unit

def maxExponent : Nat := 308

def overflowBound : Nat := Nat.pow 2 1024 - Nat.pow 2 970

/-- Whether `n * 10 ^ e` is beyond double precision, both factors rounded before they are
multiplied. -/
def overflows (n : Nat) (e : Int) : Bool :=
  if n = 0 ∨ e < 0 then false
  else if maxExponent < e then true
  else overflowBound ≤ nearest53 n * nearest53 (Nat.pow 10 e.toNat)

/-- Digits left over before the point raise the exponent, each one taken after it lowers it. -/
def Numeral.inRange (x : Numeral) : Bool :=
  let (n, left) := takeDigits 0 x.integral
  let (m, dropped) := takeDigits n x.fraction
  let taken := x.fraction.length - dropped.length
  !overflows m (left.length - taken + x.exponent)

end FractionCalculator.Json
