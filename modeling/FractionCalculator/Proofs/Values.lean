import FractionCalculator.Json.Value
import FractionCalculator.Proofs.Literals
import FractionCalculator.Proofs.Numeral

/-!
# JSON values

A value is a word, a number or a string, or it is an array or an object of values,
with blanks around each of them. A value that is passed over may be any of these,
at any depth: the reader goes past its text and no further, whatever follows that
does not go on with a number. It keeps the arrays and objects still open as
frames, and at the end of a value it is where it would be after any other one.
-/

namespace FractionCalculator.Json

open Operand (IsDigits ne_of_isDigit)

/-! ## The grammar -/

def Blank (t : Text) : Prop :=
  ∀ c ∈ t, isBlank c = true

inductive IsBody : Text → Prop where
  | done : IsBody []
  | plain {c : Char} {s : Text} (hc : 0x20 ≤ c.toNat) (hq : c ≠ '"') (hb : c ≠ '\\')
    (h : IsBody s) : IsBody (c :: s)
  | short {e c : Char} {s : Text} (he : (e, c) ∈ shortEscapes) (h : IsBody s) :
    IsBody ('\\' :: e :: s)
  | unit {u v w x : Char} {n : Nat} {s : Text} (hn : Hexadecimal.quad? u v w x = some n)
    (h : IsBody s) : IsBody ('\\' :: 'u' :: u :: v :: w :: x :: s)

inductive IsIntegral : Text → Prop where
  | zero : IsIntegral ['0']
  | digits {d : Text} (hd : IsDigits d) (hz : d.head? ≠ some '0') : IsIntegral d

inductive IsFractional : Text → Prop where
  | absent : IsFractional []
  | present {d : Text} (hd : IsDigits d) : IsFractional ('.' :: d)

inductive IsExponent : Text → Prop where
  | absent : IsExponent []
  | present {e : Char} {sign d : Text} (he : e = 'e' ∨ e = 'E')
    (hs : sign = [] ∨ sign = ['+'] ∨ sign = ['-']) (hd : IsDigits d) :
    IsExponent (e :: (sign ++ d))

inductive IsMagnitude : Text → Prop where
  | mk {i f e : Text} (hi : IsIntegral i) (hf : IsFractional f) (he : IsExponent e) :
    IsMagnitude (i ++ (f ++ e))

inductive IsScalar : Text → Prop where
  | nullWord : IsScalar ['n', 'u', 'l', 'l']
  | trueWord : IsScalar ['t', 'r', 'u', 'e']
  | falseWord : IsScalar ['f', 'a', 'l', 's', 'e']
  | unsigned {t : Text} (h : IsMagnitude t) : IsScalar t
  | negative {t : Text} (h : IsMagnitude t) : IsScalar ('-' :: t)
  | string {s : Text} (h : IsBody s) : IsScalar ('"' :: (s ++ ['"']))

def Frame.opener : Frame → Char
  | .array => '['
  | .object => '\x7b'

/-- What a text may be a part of JSON as: a value, an entry of an array or an object, or the
entries between its brackets. -/
inductive Part where
  | value
  | entry (frame : Frame)
  | entries (frame : Frame)

inductive WellFormed : Part → Text → Prop where
  | scalar {t : Text} (h : IsScalar t) : WellFormed .value t
  | empty (frame : Frame) {b : Text} (hb : Blank b) :
    WellFormed .value (frame.opener :: (b ++ [frame.closer]))
  | full (frame : Frame) {s : Text} (h : WellFormed (.entries frame) s) :
    WellFormed .value (frame.opener :: (s ++ [frame.closer]))
  | item {a t b : Text} (ha : Blank a) (h : WellFormed .value t) (hb : Blank b) :
    WellFormed (.entry .array) (a ++ (t ++ b))
  | member {a k b c t d : Text} (ha : Blank a) (hk : IsBody k) (hb : Blank b) (hc : Blank c)
    (h : WellFormed .value t) (hd : Blank d) :
    WellFormed (.entry .object) (a ++ '"' :: (k ++ '"' :: (b ++ ':' :: (c ++ (t ++ d)))))
  | last {frame : Frame} {s : Text} (h : WellFormed (.entry frame) s) :
    WellFormed (.entries frame) s
  | more {frame : Frame} {s r : Text} (h : WellFormed (.entry frame) s)
    (h' : WellFormed (.entries frame) r) : WellFormed (.entries frame) (s ++ ',' :: r)

def Delimits (t : Text) : Prop :=
  ∀ c ∈ t.head?, c.isDigit = false ∧ c ≠ '.' ∧ c ≠ 'e' ∧ c ≠ 'E'

variable {b s t r rest : Text} {c : Char} {frame : Frame} {frames : List Frame}

/-! ## Blanks -/

theorem skipBlanks_append (h : Blank b) (t : Text) : skipBlanks (b ++ t) = skipBlanks t :=
  List.dropWhile_append_of_pos h

theorem skipBlanks_cons (h : isBlank c = false) (t : Text) : skipBlanks (c :: t) = c :: t :=
  List.dropWhile_cons_of_neg (by simp [h])

theorem expect_append (h : Blank b) (c : Char) (t : Text) : expect c (b ++ t) = expect c t := by
  rw [expect, skipBlanks_append h, expect]

theorem expect_of_blank (h : Blank b) (hc : isBlank c = false) (t : Text) :
    expect c (b ++ c :: t) = .ok t := by
  simp [expect, skipBlanks_append h, skipBlanks_cons hc]

theorem isDigit_eq_false_of_isBlank (h : isBlank c = true) :
    c.isDigit = false ∧ c ≠ '.' ∧ c ≠ 'e' ∧ c ≠ 'E' := by
  simp only [isBlank, Bool.or_eq_true, decide_eq_true_eq] at h
  rcases h with ((rfl | rfl) | rfl) | rfl <;> decide

theorem Delimits.append (h : Blank b) (hr : Delimits r) : Delimits (b ++ r) := by
  cases b with
  | nil => exact hr
  | cons c b =>
    intro c' hc
    obtain rfl : c = c' := by simpa using hc
    exact isDigit_eq_false_of_isBlank (h c List.mem_cons_self)

/-! ## Strings -/

theorem skipString_of_item {item : Item} (h : scanItem t = .ok (item, r)) :
    skipString t = match item with
      | .close => .ok r
      | _ => skipString r := by
  rw [skipString]
  split
  · next hi =>
    rw [h] at hi
    cases hi
  · next hi =>
    rw [h] at hi
    cases hi
    rfl
  · next hne hi =>
    rw [h] at hi
    cases hi
    cases item with
    | close => exact absurd rfl hne
    | plain | unit => rfl

theorem skipString_of_isBody (h : IsBody s) (rest : Text) :
    skipString (s ++ '"' :: rest) = .ok rest := by
  induction h with
  | done =>
    have hi : scanItem ('"' :: rest) = .ok (.close, rest) := rfl
    rw [List.nil_append, skipString_of_item hi]
  | plain hc hq hb _ ih =>
    rw [List.cons_append, skipString_of_item (scanItem_plain hc hq hb _)]
    exact ih
  | short he _ ih =>
    rw [List.cons_append, List.cons_append, skipString_of_item (scanItem_short he _)]
    exact ih
  | unit hn _ ih =>
    simp only [List.cons_append]
    rw [skipString_of_item (scanItem_unit hn _)]
    exact ih

/-! ## Numbers -/

theorem scanDigits_append {missing : Judgement} {d : Text} (hd : IsDigits d)
    (hr : ∀ c ∈ r.head?, c.isDigit = false) : scanDigits missing (d ++ r) = .ok (d, r) := by
  simp [scanDigits, Operand.takeWhile_isDigit_append hd hr, Operand.dropWhile_isDigit_append hd hr,
    hd.1]

theorem scanIntegral_append {missing : Judgement} {i : Text} (hi : IsIntegral i)
    (hr : ∀ c ∈ r.head?, c.isDigit = false) : scanIntegral missing (i ++ r) = .ok (i, r) := by
  cases hi with
  | zero =>
    have hn : r.head?.any Char.isDigit = false := by
      cases hh : r.head? with
      | none => rfl
      | some c => exact hr c hh
    simp [scanIntegral, hn]
  | digits hd hz =>
    rw [scanIntegral, scanDigits_append hd hr]
    rintro r' he
    obtain ⟨c, d, rfl⟩ := List.exists_cons_of_ne_nil hd.1
    exact hz (congrArg some (List.cons.inj he).1)

theorem scanFraction_append {missing : Judgement} {f : Text} (hf : IsFractional f)
    (hr : ∀ c ∈ r.head?, c.isDigit = false ∧ c ≠ '.') :
    scanFraction missing (f ++ r) = .ok (f.drop 1, r) := by
  cases hf with
  | absent =>
    rw [List.nil_append, scanFraction]
    · rfl
    · rintro r' rfl
      exact (hr '.' rfl).2 rfl
  | present hd => exact scanDigits_append hd fun c hc => (hr c hc).1

theorem scanExponent_append (missing : Judgement) {e : Text} (he : IsExponent e)
    (hr : Delimits r) : ∃ n, scanExponent missing (e ++ r) = .ok (n, r) := by
  cases he with
  | absent =>
    cases r with
    | nil => exact ⟨0, rfl⟩
    | cons c r =>
      obtain ⟨-, -, h, h'⟩ := hr c rfl
      exact ⟨0, by simp [scanExponent, h, h']⟩
  | @present e sign d he hs hd =>
    have hsign : ∃ negative, splitExponentSign (sign ++ (d ++ r)) = (negative, d ++ r) := by
      rcases hs with rfl | rfl | rfl
      · -- Digits without a sign are not taken for one.
        obtain ⟨c, d, rfl⟩ := List.exists_cons_of_ne_nil hd.1
        have hc := hd.2 c List.mem_cons_self
        refine ⟨false, ?_⟩
        rw [List.nil_append, List.cons_append, splitExponentSign]
        · exact fun _ he => ne_of_isDigit hc rfl (List.cons.inj he).1
        · exact fun _ he => ne_of_isDigit hc rfl (List.cons.inj he).1
      · exact ⟨false, rfl⟩
      · exact ⟨true, rfl⟩
    obtain ⟨negative, hsign⟩ := hsign
    have hdigits : scanDigits missing (d ++ r) = .ok (d, r) :=
      scanDigits_append hd fun c hc => (hr c hc).1
    simp [scanExponent, he, hsign, hdigits]

theorem scanNumeral_append (missing : Judgement) (ht : IsMagnitude t) (hr : Delimits r) :
    ∃ n, scanNumeral missing (t ++ r) = .ok (n, r) := by
  obtain ⟨hi, hf, he⟩ := ht
  next i f e =>
  have exponent : ∀ c ∈ (e ++ r).head?, c.isDigit = false ∧ c ≠ '.' := by
    cases he with
    | absent => exact fun c hc => ⟨(hr c hc).1, (hr c hc).2.1⟩
    | present he =>
      intro c hc
      obtain rfl := Option.some.inj hc
      rcases he with rfl | rfl <;> decide
  have fraction : ∀ c ∈ (f ++ (e ++ r)).head?, c.isDigit = false := by
    cases hf with
    | absent => exact fun c hc => (exponent c hc).1
    | present =>
      intro c hc
      obtain rfl := Option.some.inj hc
      rfl
  obtain ⟨n, hn⟩ := scanExponent_append missing he hr
  refine ⟨⟨i, f.drop 1, n⟩, ?_⟩
  rw [scanNumeral, List.append_assoc, List.append_assoc, scanIntegral_append hi fraction]
  simp only [bind, Except.bind, scanFraction_append hf exponent, hn, pure, Except.pure]

theorem skipNumeral_append (ht : IsMagnitude t) (hr : Delimits r) : skipNumeral (t ++ r) = .ok r := by
  obtain ⟨n, hn⟩ := scanNumeral_append passing ht hr
  rw [skipNumeral, hn]

theorem IsMagnitude.exists_cons (h : IsMagnitude t) : ∃ c r, t = c :: r ∧ c.isDigit = true := by
  obtain ⟨hi, -, -⟩ := h
  cases hi with
  | zero => exact ⟨'0', _, rfl, rfl⟩
  | digits hd =>
    obtain ⟨c, d, rfl⟩ := List.exists_cons_of_ne_nil hd.1
    exact ⟨c, _, rfl, hd.2 c List.mem_cons_self⟩

/-! ## Scalars -/

theorem skipStart_append (h : Blank b) (t : Text) : skipStart (b ++ t) = skipStart t := by
  rw [skipStart, skipBlanks_append h, skipStart]

theorem skipStart_of_scalar {u : Text} (hb : isBlank c = false) (ha : c ≠ '[') (ho : c ≠ '\x7b')
    (h : scalar skipString skipNumeral c t = .ok u) : skipStart (c :: t) = .ok (none, u) := by
  simp [skipStart, skipBlanks_cons hb, ha, ho, h, Except.map]

theorem isBlank_of_isDigit (h : c.isDigit = true) : isBlank c = false := by
  cases hb : isBlank c with
  | false => rfl
  | true => rw [(isDigit_eq_false_of_isBlank hb).1] at h; cases h

theorem skipStart_append_of_isScalar (h : IsScalar t) (hr : Delimits r) :
    skipStart (t ++ r) = .ok (none, r) := by
  cases h with
  | nullWord => exact skipStart_of_scalar rfl (by decide) (by decide) (skipWord_eq_ok_iff.2 rfl)
  | trueWord => exact skipStart_of_scalar rfl (by decide) (by decide) (skipWord_eq_ok_iff.2 rfl)
  | falseWord => exact skipStart_of_scalar rfl (by decide) (by decide) (skipWord_eq_ok_iff.2 rfl)
  | negative h =>
    exact skipStart_of_scalar rfl (by decide) (by decide) (skipNumeral_append h hr)
  | string h =>
    rw [List.cons_append, List.append_assoc]
    exact skipStart_of_scalar rfl (by decide) (by decide) (skipString_of_isBody h r)
  | unsigned h =>
    obtain ⟨c, u, rfl, hc⟩ := h.exists_cons
    have hne {d : Char} (hd : d.isDigit = false) : c ≠ d := ne_of_isDigit hc hd
    refine skipStart_of_scalar (isBlank_of_isDigit hc) (hne rfl) (hne rfl) ?_
    rw [scalar, if_neg (hne rfl), if_neg (hne rfl), if_neg (hne rfl), if_neg (hne rfl),
      if_neg (hne rfl), if_pos hc]
    exact skipNumeral_append h hr

/-! ## Arrays and objects -/

theorem isBlank_opener (frame : Frame) : isBlank frame.opener = false := by
  cases frame <;> rfl

theorem isBlank_closer (frame : Frame) : isBlank frame.closer = false := by
  cases frame <;> rfl

theorem skipStart_opener (frame : Frame) (t : Text) :
    skipStart (frame.opener :: t) = .ok (some frame, t) := by
  rw [skipStart, skipBlanks_cons (isBlank_opener frame)]
  cases frame <;> rfl

def resume (after : Bool) (frames : List Frame) (t : Text) : Except Fault Text :=
  match settle after frames t with
  | .error fault => .error fault
  | .ok ([], r) => .ok r
  | .ok (frame :: frames, r) => skipIn (frame :: frames) r

def proceed (frame : Frame) (frames : List Frame) (t : Text) : Except Fault Text :=
  match enter frame t with
  | .error fault => .error fault
  | .ok r => skipIn (frame :: frames) r

theorem skipIn_eq (frames : List Frame) (t : Text) :
    skipIn frames t = match skipStart t with
      | .error fault => .error fault
      | .ok (opened, r) => resume opened.isNone (opened.toList ++ frames) r := by
  rw [skipIn]
  split
  · next hs => rw [hs]
  · next opened r hs =>
    rw [hs]
    dsimp only
    rw [resume]
    split <;> next he => rw [he]

theorem skipIn_append (h : Blank b) (frames : List Frame) (t : Text) :
    skipIn frames (b ++ t) = skipIn frames t := by
  rw [skipIn_eq, skipStart_append h, skipIn_eq]

theorem skipIn_opener (frame : Frame) (frames : List Frame) (t : Text) :
    skipIn frames (frame.opener :: t) = resume false (frame :: frames) t := by
  rw [skipIn_eq, skipStart_opener]
  rfl

theorem resume_nil (after : Bool) (t : Text) : resume after [] t = .ok t := by
  simp [resume, settle]

theorem resume_append (h : Blank b) (after : Bool) (frame : Frame) (frames : List Frame)
    (t : Text) : resume after (frame :: frames) (b ++ t) = resume after (frame :: frames) t := by
  induction b with
  | nil => rfl
  | cons c b ih =>
    obtain ⟨hc, hb⟩ := List.forall_mem_cons.1 h
    rw [← ih hb, List.cons_append, resume, settle, if_pos hc, resume]

theorem resume_closer (after : Bool) (frame : Frame) (frames : List Frame) (t : Text) :
    resume after (frame :: frames) (frame.closer :: t) = resume true frames t := by
  rw [resume, settle, if_neg (by simp [isBlank_closer]), if_pos rfl, resume]

theorem resume_comma (frame : Frame) (frames : List Frame) (t : Text) :
    resume true (frame :: frames) (',' :: t) = proceed frame frames t := by
  have hc : ',' ≠ frame.closer := by cases frame <;> decide
  rw [resume, settle, if_neg (by decide), if_neg hc, if_pos rfl, if_pos rfl, proceed]
  cases enter frame t <;> rfl

theorem resume_entry (hb : isBlank c = false) (hc : c ≠ frame.closer) (frames : List Frame)
    (t : Text) : resume false (frame :: frames) (c :: t) = proceed frame frames (c :: t) := by
  rw [resume, settle, if_neg (by simp [hb]), if_neg hc, if_neg (by decide), proceed]
  cases enter frame (c :: t) <;> rfl

theorem proceed_append (h : Blank b) (frame : Frame) (frames : List Frame) (t : Text) :
    proceed frame frames (b ++ t) = proceed frame frames t := by
  cases frame with
  | array => exact skipIn_append h _ t
  | object => rw [proceed, enter, skipKey, expect_append h, proceed, enter, skipKey]

theorem proceed_member {a k b : Text} (ha : Blank a) (hk : IsBody k) (hb : Blank b)
    (frames : List Frame) (t : Text) :
    proceed .object frames (a ++ '"' :: (k ++ '"' :: (b ++ ':' :: t))) =
      skipIn (.object :: frames) t := by
  rw [proceed, enter, skipKey, expect_of_blank ha rfl]
  simp only [bind, Except.bind, skipString_of_isBody hk, expect_of_blank (c := ':') hb rfl]

/-! ## Where a part starts -/

theorem IsScalar.exists_cons (h : IsScalar t) :
    ∃ c r, t = c :: r ∧ isBlank c = false ∧ c ≠ ']' := by
  cases h with
  | nullWord | trueWord | falseWord | negative | string =>
    exact ⟨_, _, rfl, rfl, by decide⟩
  | unsigned h =>
    obtain ⟨c, r, rfl, hc⟩ := h.exists_cons
    exact ⟨c, r, rfl, isBlank_of_isDigit hc, ne_of_isDigit hc rfl⟩

theorem WellFormed.exists_cons (h : WellFormed .value t) :
    ∃ c r, t = c :: r ∧ isBlank c = false ∧ c ≠ ']' := by
  cases h with
  | scalar h => exact h.exists_cons
  | empty frame | full frame =>
    exact ⟨_, _, rfl, isBlank_opener frame, by cases frame <;> decide⟩

theorem WellFormed.exists_append (h : WellFormed (.entry frame) s) :
    ∃ a c r, s = a ++ c :: r ∧ Blank a ∧ isBlank c = false ∧ c ≠ frame.closer := by
  cases h with
  | item ha h hb =>
    obtain ⟨c, r, rfl, hc, hne⟩ := h.exists_cons
    exact ⟨_, c, _, rfl, ha, hc, hne⟩
  | member ha => exact ⟨_, '"', _, rfl, ha, rfl, by decide⟩

theorem resume_of_entry (h : WellFormed (.entry frame) s) (frames : List Frame) (rest : Text) :
    resume false (frame :: frames) (s ++ rest) = proceed frame frames (s ++ rest) := by
  obtain ⟨a, c, r, rfl, ha, hb, hc⟩ := h.exists_append
  rw [List.append_assoc, List.cons_append, resume_append ha, proceed_append ha, resume_entry hb hc]

theorem resume_of_entries (h : WellFormed (.entries frame) s) (frames : List Frame) (rest : Text) :
    resume false (frame :: frames) (s ++ rest) = proceed frame frames (s ++ rest) := by
  cases h with
  | last h => exact resume_of_entry h frames rest
  | more h =>
    rw [List.append_assoc]
    exact resume_of_entry h frames _

/-! ## Passing over -/

def Passes : Part → Text → Prop
  | .value, t => ∀ (frames : List Frame) (rest : Text), Delimits rest →
    skipIn frames (t ++ rest) = resume true frames rest
  | .entry frame, s => ∀ (frames : List Frame) (rest : Text), Delimits rest →
    proceed frame frames (s ++ rest) = resume true (frame :: frames) rest
  | .entries frame, s => ∀ (frames : List Frame) (rest : Text),
    proceed frame frames (s ++ frame.closer :: rest) = resume true frames rest

theorem delimits_cons (hd : c.isDigit = false) (h : c ≠ '.' ∧ c ≠ 'e' ∧ c ≠ 'E') (t : Text) :
    Delimits (c :: t) := by
  intro c' hc
  obtain rfl := Option.some.inj hc
  exact ⟨hd, h⟩

theorem passes_of_wellFormed {part : Part} (h : WellFormed part t) : Passes part t := by
  -- The frames and the rest are any, so that a part inside another one is passed over alike.
  induction h with
  | scalar h =>
    intro frames rest hr
    rw [skipIn_eq, skipStart_append_of_isScalar h hr]
    rfl
  | empty frame hb =>
    intro frames rest _
    rw [List.cons_append, List.append_assoc, skipIn_opener, resume_append hb]
    exact resume_closer false frame frames rest
  | full frame h ih =>
    intro frames rest _
    rw [List.cons_append, List.append_assoc, skipIn_opener, resume_of_entries h]
    exact ih frames rest
  | item ha _ hb ih =>
    intro frames rest hr
    rw [List.append_assoc, List.append_assoc, proceed_append ha]
    exact (ih _ _ (hr.append hb)).trans (resume_append hb true .array frames rest)
  | member ha hk hb hc _ hd ih =>
    intro frames rest hr
    simp only [List.append_assoc, List.cons_append]
    rw [proceed_member ha hk hb, skipIn_append hc, ih _ _ (hr.append hd)]
    exact resume_append hd true .object frames rest
  | @last frame s h ih =>
    intro frames rest
    have hr : Delimits (frame.closer :: rest) := by
      cases frame <;> exact delimits_cons rfl (by decide) rest
    exact (ih frames _ hr).trans (resume_closer true frame frames rest)
  | @more frame s r h _ ih ih' =>
    intro frames rest
    have hr : Delimits (',' :: (r ++ frame.closer :: rest)) := delimits_cons rfl (by decide) _
    rw [List.append_assoc, List.cons_append, ih frames _ hr, resume_comma]
    exact ih' frames rest

/-- Any value is passed over, and nothing more. -/
theorem skipValue_append (h : WellFormed .value t) (hr : Delimits r) :
    skipValue (t ++ r) = .ok r :=
  (passes_of_wellFormed h [] r hr).trans (resume_nil true r)

end FractionCalculator.Json
