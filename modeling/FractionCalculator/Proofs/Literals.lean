import FractionCalculator.Json.StringLiteral

/-!
# String literals

A text can be spelled as a string literal in many ways: a character stands for
itself, or is escaped by one letter, or by the hexadecimal digits of one unit or
of a pair of surrogates. Reading gives the text of any of its spellings, and the
spelling that is written is one of them.
-/

namespace FractionCalculator.Json

def shortEscapes : List (Char × Char) :=
  [('"', '"'), ('\\', '\\'), ('/', '/'), ('b', '\x08'), ('f', '\x0c'), ('n', '\n'), ('r', '\r'),
    ('t', '\t')]

/-- What stands between the quotes of a literal, and the text it spells. -/
inductive Spells : Text → Text → Prop where
  | done : Spells [] []
  | plain {c : Char} {s t : Text} (hc : 0x20 ≤ c.toNat) (hq : c ≠ '"') (hb : c ≠ '\\')
    (h : Spells s t) : Spells (c :: s) (c :: t)
  | short {e c : Char} {s t : Text} (he : (e, c) ∈ shortEscapes) (h : Spells s t) :
    Spells ('\\' :: e :: s) (c :: t)
  | unit {u v w x c : Char} {s t : Text} (hc : Hexadecimal.quad? u v w x = some c.toNat)
    (h : Spells s t) : Spells ('\\' :: 'u' :: u :: v :: w :: x :: s) (c :: t)
  | pair {u v w x k l m n : Char} {high low : Nat} {s t : Text}
    (hh : Hexadecimal.quad? u v w x = some high) (hs : isHighSurrogate high = true)
    (hl : Hexadecimal.quad? k l m n = some low) (hs' : isLowSurrogate low = true)
    (h : Spells s t) :
    Spells ('\\' :: 'u' :: u :: v :: w :: x :: '\\' :: 'u' :: k :: l :: m :: n :: s)
      (pairChar high low :: t)

variable {c : Char} {n : Nat} {s t r rest : Text}

theorem length_le_length_utf8 (t : Text) : t.length ≤ t.utf8.length := by
  induction t with
  | nil => exact Nat.le_refl _
  | cons c t ih =>
    have hc : 0 < (String.utf8EncodeChar c).length := by
      rw [String.length_utf8EncodeChar]
      exact c.utf8Size_pos
    rw [Text.utf8, List.flatMap_cons, List.length_append, List.length_cons]
    have ih : t.length ≤ (t.flatMap String.utf8EncodeChar).length := ih
    omega

theorem scanUnit_of_quad? {u v w x : Char} (h : Hexadecimal.quad? u v w x = some n) (r : Text) :
    scanUnit (u :: v :: w :: x :: r) = .ok (.unit n, r) := by
  have hl : ¬(Text.utf8 ((u :: v :: w :: x :: r).take 4)).length < 4 :=
    Nat.not_lt.2 (length_le_length_utf8 [u, v, w, x])
  rw [scanUnit, if_neg hl, h]

theorem scanItem_plain (hc : 0x20 ≤ c.toNat) (hq : c ≠ '"') (hb : c ≠ '\\') (r : Text) :
    scanItem (c :: r) = .ok (.plain c, r) := by
  unfold scanItem
  split
  · cases ‹_ = ([] : Text)›
  · next h => cases h; exact absurd rfl hq
  · next h => cases h; exact absurd rfl hb
  · next h => cases h; rw [if_neg (by omega)]

theorem scanItem_short {e : Char} (he : (e, c) ∈ shortEscapes) (r : Text) :
    scanItem ('\\' :: e :: r) = .ok (.plain c, r) := by
  simp only [shortEscapes, List.mem_cons, Prod.mk.injEq, List.not_mem_nil, or_false] at he
  rcases he with ⟨rfl, rfl⟩ | ⟨rfl, rfl⟩ | ⟨rfl, rfl⟩ | ⟨rfl, rfl⟩ | ⟨rfl, rfl⟩ | ⟨rfl, rfl⟩ |
    ⟨rfl, rfl⟩ | ⟨rfl, rfl⟩ <;> rfl

theorem scanItem_unit {u v w x : Char} (h : Hexadecimal.quad? u v w x = some n) (r : Text) :
    scanItem ('\\' :: 'u' :: u :: v :: w :: x :: r) = .ok (.unit n, r) :=
  scanUnit_of_quad? h r

theorem scanRest_of_item {item : Item} (h : scanItem t = .ok (item, r)) (high : Option Nat) :
    scanRest high t = match high, item with
      | none, .close => .ok ([], r)
      | none, .plain c => Scan.cons c (scanRest none r)
      | none, .unit n =>
        if isLowSurrogate n then .error .illFormed
        else if isHighSurrogate n then scanRest (some n) r
        else Scan.cons (Char.ofNat n) (scanRest none r)
      | some high, .unit low =>
        if isLowSurrogate low then Scan.cons (pairChar high low) (scanRest none r)
        else .error .illFormed
      | some _, _ => .error .illFormed := by
  rw [scanRest]
  split
  · next fault hf =>
    rw [h] at hf
    cases hf
  · next item' r' hi =>
    obtain ⟨rfl, rfl⟩ : item = item' ∧ r = r' := by simpa [h] using hi
    cases high <;> cases item <;> rfl

theorem not_isSurrogate_toNat (c : Char) :
    isLowSurrogate c.toNat = false ∧ isHighSurrogate c.toNat = false := by
  have hv : c.toNat < 0xd800 ∨ 0xdfff < c.toNat ∧ c.toNat < 0x110000 := c.valid
  simp only [isLowSurrogate, isHighSurrogate, Bool.and_eq_false_iff, decide_eq_false_iff_not]
  omega

/-- Any spelling of a text is read as the text. -/
theorem scanString_of_spells (h : Spells s t) (rest : Text) :
    scanString (s ++ '"' :: rest) = .ok (t, rest) := by
  unfold scanString
  -- No surrogate is pending where a spelling begins, nor after any step of it.
  induction h with
  | done =>
    have hi : scanItem ('"' :: rest) = .ok (.close, rest) := rfl
    rw [List.nil_append, scanRest_of_item hi]
  | plain hc hq hb _ ih =>
    rw [List.cons_append, scanRest_of_item (scanItem_plain hc hq hb _)]
    simp only [ih, Scan.cons]
  | short he _ ih =>
    rw [List.cons_append, List.cons_append, scanRest_of_item (scanItem_short he _)]
    simp only [ih, Scan.cons]
  | @unit u v w x c s t hc _ ih =>
    obtain ⟨hl, hh⟩ := not_isSurrogate_toNat c
    simp only [List.cons_append]
    rw [scanRest_of_item (scanItem_unit hc _)]
    simp only [hl, hh, Bool.false_eq_true, if_false, Char.ofNat_toNat, ih, Scan.cons]
  | @pair u v w x k l m n high low s t hh hs hl hs' _ ih =>
    have hnl : isLowSurrogate high = false := by
      simp only [isHighSurrogate, isLowSurrogate, Bool.and_eq_true, Bool.and_eq_false_iff,
        decide_eq_true_eq, decide_eq_false_iff_not] at hs ⊢
      omega
    simp only [List.cons_append]
    rw [scanRest_of_item (scanItem_unit hh _)]
    simp only [hnl, hs, Bool.false_eq_true, if_false, if_true]
    rw [scanRest_of_item (scanItem_unit hl _)]
    simp only [hs', if_true, ih, Scan.cons]

theorem Spells.escape (c : Char) (h : Spells s t) : Spells (escape c ++ s) (c :: t) := by
  unfold Json.escape
  split
  case h_8 =>
    next hq hb _ _ _ _ _ =>
    split
    · next hc =>
      have hd : Hexadecimal.quad? '0' '0' (Nat.digitChar (c.toNat / 16))
          (Nat.digitChar (c.toNat % 16)) = some c.toNat := by
        have hz : Hexadecimal.pair? '0' '0' = some 0 := by decide
        simp [Hexadecimal.quad?, hz, Hexadecimal.pair?_ofByte (show c.toNat < 256 by omega)]
      exact .unit hd h
    · exact .plain (by omega) hq hb h
  all_goals exact .short (by decide) h

theorem spells_escape (t : Text) : Spells (t.flatMap escape) t := by
  induction t with
  | nil => exact .done
  | cons c t ih => exact ih.escape c

end FractionCalculator.Json
