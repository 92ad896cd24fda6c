import FractionCalculator.Json.Value

/-!
# JSON records of texts

A record has named fields, each a text. It is written as an object without
blanks, the fields in their order. It is read from an object with its members in
any order, those of other names passed over, or from an array of the fields in
their order.
-/

namespace FractionCalculator.Json.Record

def writeMember (field : Text × Text) : Text :=
  quote field.1 ++ ':' :: quote field.2

def write (fields : List (Text × Text)) : Text :=
  '\x7b' :: List.intercalate [','] (fields.map writeMember) ++ ['\x7d']

/-! ## Values of another kind -/

def readNumeral : Passage := fun t =>
  match scanNumeral reading t with
  | .ok (n, r) => if n.inRange then .ok r else .error .illFormed
  | .error fault => .error fault

def readString : Passage := fun t =>
  (scanString t).map (·.2)

/-- The fault of a value that is not the one due and starts with `c`. A scalar is read first and
may have a fault of its own; arrays and objects are not looked into. -/
def misfitAt (c : Char) (r : Text) : Fault :=
  if c = '[' ∨ c = '\x7b' then .misfit
  else
    match scalar readString readNumeral c r with
    | .ok _ => .misfit
    | .error fault => fault

def scanValue (t : Text) : Scan Text :=
  match skipBlanks t with
  | [] => .error .cutShort
  | c :: r => if c = '"' then scanString r else .error (misfitAt c r)

/-! ## The form of an array -/

def nextItem (first : Bool) (t : Text) : Except Fault Text :=
  match skipBlanks t with
  | [] => .error .cutShort
  | c :: r =>
    if c = ']' then .error .misfit
    else if first then .ok (c :: r)
    else if c = ',' then
      match skipBlanks r with
      | [] => .error .cutShort
      | d :: s => if d = ']' then .error .illFormed else .ok (d :: s)
    else .error .illFormed

def scanItems (first : Bool) : List Text → Text → Except Fault (List (Text × Text) × Text)
  | [], t => (expect ']' t).map ([], ·)
  | name :: names, t => do
    let (value, r) ← scanValue (← nextItem first t)
    let (found, r) ← scanItems false names r
    return ((name, value) :: found, r)

/-! ## The form of an object -/

def scanKey (t : Text) : Except Fault (Option Text × Text) := do
  let (name, r) ← scanString (← expect '"' t)
  return (some name, r)

def nextKey (first : Bool) (t : Text) : Except Fault (Option Text × Text) :=
  match skipBlanks t with
  | [] => .error .cutShort
  | c :: r =>
    if c = '\x7d' then .ok (none, r)
    else if first then scanKey (c :: r)
    else if c = ',' then scanKey r
    else .error .illFormed

def scanMember (fields : List Text) (found : List (Text × Text)) (name t : Text) :
    Except Fault (List (Text × Text) × Text) :=
  if name ∈ fields then
    if (found.lookup name).isSome then .error .misfit
    else do
      let (value, r) ← scanValue (← expect ':' t)
      return ((name, value) :: found, r)
  else do
    let r ← skipValue (← expect ':' t)
    return (found, r)

theorem length_scanValue {t cs r : Text} (h : scanValue t = .ok (cs, r)) :
    r.length < t.length := by
  have blanks := length_skipBlanks_le t
  unfold scanValue at h
  split at h
  · cases h
  · next hu =>
    rw [hu, List.length_cons] at blanks
    split at h
    · have := length_scanString h
      omega
    · cases h

theorem length_scanKey {t r : Text} {key : Option Text} (h : scanKey t = .ok (key, r)) :
    r.length < t.length := by
  unfold scanKey at h
  cases hq : expect '"' t with
  | error => rw [hq] at h; cases h
  | ok u =>
    cases hs : scanString u with
    | error => simp [bind, Except.bind, hq, hs] at h
    | ok p =>
      obtain ⟨name, v⟩ := p
      simp only [bind, Except.bind, hq, hs, pure, Except.pure, Except.ok.injEq,
        Prod.mk.injEq] at h
      have := length_expect hq
      have := length_scanString hs
      rw [← h.2]
      omega

theorem length_nextKey {first : Bool} {t r : Text} {key : Option Text}
    (h : nextKey first t = .ok (key, r)) : r.length < t.length := by
  have blanks := length_skipBlanks_le t
  unfold nextKey at h
  split at h
  · cases h
  · next hu =>
    rw [hu, List.length_cons] at blanks
    split at h
    · cases h; omega
    · split at h
      · exact Nat.lt_of_lt_of_le (length_scanKey h) blanks
      · split at h
        · have := length_scanKey h
          omega
        · cases h

theorem length_scanMember {fields : List Text} {found found' : List (Text × Text)}
    {name t r : Text} (h : scanMember fields found name t = .ok (found', r)) :
    r.length < t.length := by
  unfold scanMember at h
  cases hc : expect ':' t with
  | error =>
    simp only [bind, Except.bind, hc] at h
    split at h <;> try split at h
    all_goals cases h
  | ok u =>
    have := length_expect hc
    simp only [bind, Except.bind, hc] at h
    split at h
    · split at h
      · cases h
      · cases hv : scanValue u with
        | error => simp [hv] at h
        | ok p =>
          obtain ⟨value, v⟩ := p
          simp only [hv, pure, Except.pure, Except.ok.injEq, Prod.mk.injEq] at h
          have := length_scanValue hv
          rw [← h.2]
          omega
    · cases hv : skipValue u with
      | error => simp [hv] at h
      | ok v =>
        simp only [hv, pure, Except.pure, Except.ok.injEq, Prod.mk.injEq] at h
        have := length_skipIn hv
        rw [← h.2]
        omega

def scanMembers (fields : List Text) (found : List (Text × Text)) (first : Bool) (t : Text) :
    Scan (List (Text × Text)) :=
  match _h : nextKey first t with
  | .error fault => .error fault
  | .ok (none, r) => .ok (found, r)
  | .ok (some name, r) =>
    match _h' : scanMember fields found name r with
    | .error fault => .error fault
    | .ok (found, r) => scanMembers fields found false r
termination_by t.length
decreasing_by exact Nat.lt_trans (length_scanMember _h') (length_nextKey _h)

/-! ## Records -/

def scan (fields : List Text) (t : Text) : Scan (List (Text × Text)) :=
  match skipBlanks t with
  | [] => .error .cutShort
  | c :: r =>
    if c = '[' then scanItems true fields r
    else if c = '\x7b' then scanMembers fields [] true r
    else .error (misfitAt c r)

def read (fields : List Text) (t : Text) : Except Fault (List Text) :=
  match scan fields t with
  | .error fault => .error fault
  | .ok (found, r) =>
    match fields.mapM (found.lookup ·) with
    | none => .error .misfit
    | some values => if skipBlanks r = [] then .ok values else .error .illFormed

end FractionCalculator.Json.Record
