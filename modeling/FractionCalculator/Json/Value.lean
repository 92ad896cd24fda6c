import FractionCalculator.Json.Numeral
import FractionCalculator.Json.StringLiteral

/-!
# Passing over JSON values

A value is passed over without being kept: only its grammar is checked, at any
depth. The arrays and objects still open are kept as a list of frames, the
innermost first.
-/

namespace FractionCalculator.Json

inductive Frame where
  | array
  | object
deriving DecidableEq, Repr

def Frame.closer : Frame → Char
  | .array => ']'
  | .object => '\x7d'

abbrev Passage := Text → Except Fault Text

def skipNumeral : Passage := fun t =>
  match scanNumeral passing t with
  | .ok (_, r) => .ok r
  | .error fault => .error fault

def scalar (string numeral : Passage) (c : Char) (r : Text) : Except Fault Text :=
  if c = '"' then string r
  else if c = 'n' then skipWord "ull".toList r
  else if c = 't' then skipWord "rue".toList r
  else if c = 'f' then skipWord "alse".toList r
  else if c = '-' then numeral r
  else if c.isDigit then numeral (c :: r)
  else .error .illFormed

def skipStart (t : Text) : Except Fault (Option Frame × Text) :=
  match skipBlanks t with
  | [] => .error .cutShort
  | c :: r =>
    if c = '[' then .ok (some .array, r)
    else if c = '\x7b' then .ok (some .object, r)
    else (scalar skipString skipNumeral c r).map (none, ·)

def skipKey (t : Text) : Except Fault Text := do
  let r ← expect '"' t
  expect ':' (← skipString r)

def enter (frame : Frame) (t : Text) : Except Fault Text :=
  match frame with
  | .array => .ok t
  | .object => skipKey t

/-- Goes on to where the next value is due and gives the frames open there; with none open the
value is complete. After a value the innermost frame is closed or goes on with a comma; just
opened, it is closed or its first value is due. -/
def settle (after : Bool) : List Frame → Text → Except Fault (List Frame × Text)
  | [], t => .ok ([], t)
  | _ :: _, [] => .error .cutShort
  | frame :: frames, c :: r =>
    if isBlank c then settle after (frame :: frames) r
    else if c = frame.closer then settle true frames r
    else if after then
      if c = ',' then (enter frame r).map (frame :: frames, ·) else .error .illFormed
    else (enter frame (c :: r)).map (frame :: frames, ·)

theorem length_skipWord {word t r : Text} (h : skipWord word t = .ok r) :
    r.length ≤ t.length := by
  rw [skipWord_eq_ok_iff] at h
  simp [h]

theorem length_skipNumeral {t r : Text} (h : skipNumeral t = .ok r) : r.length < t.length := by
  unfold skipNumeral at h
  split at h
  · next hn => cases h; exact length_scanNumeral hn
  · cases h

theorem length_scalar {string numeral : Passage} {c : Char} {t r : Text}
    (hs : ∀ {t r}, string t = .ok r → r.length ≤ t.length)
    (hn : ∀ {t r}, numeral t = .ok r → r.length < t.length)
    (h : scalar string numeral c t = .ok r) : r.length ≤ t.length := by
  unfold scalar at h
  repeat' split at h
  · exact hs h
  · exact length_skipWord h
  · exact length_skipWord h
  · exact length_skipWord h
  · exact Nat.le_of_lt (hn h)
  · exact Nat.le_of_lt_succ (hn h)
  · cases h

theorem map_eq_ok {α β : Type} {x : Except Fault α} {f : α → β} {b : β}
    (h : x.map f = .ok b) : ∃ a, x = .ok a ∧ f a = b := by
  cases x with
  | error => cases h
  | ok a => cases h; exact ⟨a, rfl, rfl⟩

theorem length_skipStart {t r : Text} {frame : Option Frame}
    (h : skipStart t = .ok (frame, r)) : r.length < t.length := by
  have blanks := length_skipBlanks_le t
  unfold skipStart at h
  split at h
  · cases h
  · next hu =>
    rw [hu, List.length_cons] at blanks
    split at h
    · cases h; omega
    · split at h
      · cases h; omega
      · obtain ⟨u, hs, he⟩ := map_eq_ok h
        cases he
        have := length_scalar (fun h => Nat.le_of_lt (length_skipString h)) length_skipNumeral hs
        omega

theorem length_skipKey {t r : Text} (h : skipKey t = .ok r) : r.length < t.length := by
  unfold skipKey at h
  cases hq : expect '"' t with
  | error => rw [hq] at h; cases h
  | ok u =>
    cases hs : skipString u with
    | error => simp [bind, Except.bind, hq, hs] at h
    | ok v =>
      simp only [bind, Except.bind, hq, hs] at h
      have := length_expect hq
      have := length_skipString hs
      have := length_expect h
      omega

theorem length_enter {frame : Frame} {t r : Text} (h : enter frame t = .ok r) :
    r.length ≤ t.length := by
  cases frame with
  | array => cases h; exact Nat.le_refl _
  | object => exact Nat.le_of_lt (length_skipKey h)

theorem length_settle {after : Bool} {frames frames' : List Frame} {t r : Text}
    (h : settle after frames t = .ok (frames', r)) : r.length ≤ t.length := by
  fun_induction settle after frames t with
  | case1 => cases h; exact Nat.le_refl _
  | case2 => cases h
  | case3 _ _ _ _ _ _ ih => exact Nat.le_succ_of_le (ih h)
  | case4 _ _ _ _ _ ih => exact Nat.le_succ_of_le (ih h)
  | case5 =>
    obtain ⟨u, hs, he⟩ := map_eq_ok h
    cases he
    exact Nat.le_succ_of_le (length_enter hs)
  | case6 => cases h
  | case7 =>
    obtain ⟨u, hs, he⟩ := map_eq_ok h
    cases he
    exact length_enter hs

def skipIn (frames : List Frame) (t : Text) : Except Fault Text :=
  match _h : skipStart t with
  | .error fault => .error fault
  | .ok (opened, r) =>
    match _h' : settle opened.isNone (opened.toList ++ frames) r with
    | .error fault => .error fault
    | .ok ([], r) => .ok r
    | .ok (frame :: frames, r) => skipIn (frame :: frames) r
termination_by t.length
decreasing_by exact Nat.lt_of_le_of_lt (length_settle _h') (length_skipStart _h)

def skipValue (t : Text) : Except Fault Text :=
  skipIn [] t

theorem length_skipIn {frames : List Frame} {t r : Text} (h : skipIn frames t = .ok r) :
    r.length < t.length := by
  fun_induction skipIn frames t with
  | case1 | case2 => cases h
  | case3 _ _ _ _ hs _ he =>
    cases h
    exact Nat.lt_of_le_of_lt (length_settle he) (length_skipStart hs)
  | case4 _ _ _ _ hs _ _ _ he ih =>
    exact Nat.lt_trans (ih h) (Nat.lt_of_le_of_lt (length_settle he) (length_skipStart hs))

end FractionCalculator.Json
