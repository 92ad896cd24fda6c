import FractionCalculator.Text

/-!
# Media types

A media type is a type and a subtype with a slash between them, then parameters,
each after a semicolon. Names and plain values are tokens; a value may be quoted
instead. Types are compared without regard to the case of ASCII letters. These are
the rules that the web framework, rocket, is assumed to follow.
-/

namespace FractionCalculator.Service

structure MediaType where
  top : Text
  sub : Text
  params : List (Text × Text)
deriving DecidableEq, Repr

namespace MediaType

def isTokenChar (c : Char) : Bool :=
  c.isDigit || ('A' ≤ c && c ≤ 'Z') || ('^' ≤ c && c ≤ '~') || ('#' ≤ c && c ≤ '\'') ||
    c = '!' || c = '*' || c = '+' || c = '-' || c = '.'

def isBlank (c : Char) : Bool :=
  c = ' ' || c = '\t'

def scanToken (t : Text) : Option (Text × Text) :=
  let token := t.takeWhile isTokenChar
  if token = [] then none else some (token, t.dropWhile isTokenChar)

def scanChar (c : Char) : Text → Option Text
  | [] => none
  | d :: r => if d = c then some r else none

def scanQuoted : Text → Option (Text × Text)
  | [] => none
  | '"' :: r => some ([], r)
  | '\\' :: c :: r => (scanQuoted r).map fun (value, r) => ('\\' :: c :: value, r)
  | c :: r => (scanQuoted r).map fun (value, r) => (c :: value, r)

def scanValue : Text → Option (Text × Text)
  | '"' :: r => scanQuoted r
  | t => scanToken t

def scanParam (t : Text) : Option ((Text × Text) × Text) := do
  let (name, r) ← scanToken (t.dropWhile isBlank)
  let (value, r) ← scanValue (← scanChar '=' r)
  return ((name, value), r.dropWhile isBlank)

theorem length_dropWhile_le (p : Char → Bool) (t : Text) :
    (t.dropWhile p).length ≤ t.length :=
  (List.dropWhile_sublist p).length_le

theorem length_scanToken {t token r : Text} (h : scanToken t = some (token, r)) :
    r.length < t.length := by
  simp only [scanToken] at h
  split at h
  · cases h
  · next hne =>
    cases h
    have split := congrArg List.length (List.takeWhile_append_dropWhile (p := isTokenChar) (l := t))
    have := List.length_pos_iff.2 hne
    rw [List.length_append] at split
    omega

theorem length_scanChar {c : Char} {t r : Text} (h : scanChar c t = some r) :
    r.length < t.length := by
  cases t with
  | nil => cases h
  | cons d u =>
    simp only [scanChar] at h
    split at h <;> cases h
    simp

theorem length_scanQuoted {t value r : Text} (h : scanQuoted t = some (value, r)) :
    r.length < t.length := by
  fun_induction scanQuoted t generalizing value with
  | case1 => cases h
  | case2 => cases h; simp
  | case3 c u ih =>
    obtain ⟨⟨v, w⟩, hq, he⟩ := Option.map_eq_some_iff.1 h
    cases he
    have := ih hq
    simp only [List.length_cons]
    omega
  | case4 c u _ _ ih =>
    obtain ⟨⟨v, w⟩, hq, he⟩ := Option.map_eq_some_iff.1 h
    cases he
    exact Nat.lt_succ_of_lt (ih hq)

theorem length_scanValue {t value r : Text} (h : scanValue t = some (value, r)) :
    r.length < t.length := by
  unfold scanValue at h
  split at h
  · exact Nat.lt_succ_of_lt (length_scanQuoted h)
  · exact length_scanToken h

theorem length_scanParam {t r : Text} {param : Text × Text}
    (h : scanParam t = some (param, r)) : r.length < t.length := by
  simp only [scanParam, bind, Option.bind_eq_some_iff, pure, Option.some.injEq,
    Prod.mk.injEq] at h
  obtain ⟨⟨name, u⟩, hn, v, hc, ⟨value, w⟩, hv, _, rfl⟩ := h
  have := length_dropWhile_le isBlank t
  have := length_dropWhile_le isBlank w
  have := length_scanToken hn
  have := length_scanChar (t := u) hc
  have := length_scanValue (t := v) hv
  dsimp only
  omega

def params? (t : Text) : Option (List (Text × Text)) :=
  match t with
  | [] => some []
  | c :: r =>
    if c ≠ ';' then none
    else
      match _h : scanParam r with
      | none => none
      | some (param, r) => (params? r).map (param :: ·)
termination_by t.length
decreasing_by exact Nat.lt_succ_of_lt (length_scanParam _h)

def parse? (t : Text) : Option MediaType := do
  let (top, r) ← scanToken t
  let (sub, r) ← scanToken (← scanChar '/' r)
  return ⟨top, sub, ← params? r⟩

def isOf (m : MediaType) (top sub : String) : Bool :=
  m.top.map Char.toLower = top.toList && m.sub.map Char.toLower = sub.toList

def isJson (m : MediaType) : Bool :=
  m.isOf "application" "json"

def isForm (m : MediaType) : Bool :=
  m.isOf "application" "x-www-form-urlencoded"

end MediaType
end FractionCalculator.Service
