import FractionCalculator.Proofs.Numeral

/-!
# Operands in writing

An operand's text writes its components in one of three forms, and only the whole
part of a mixed number may carry a sign there. The marks in a text decide its
form: no component contains one. Reading an operand gives a fraction for exactly
the texts that write components of which the fraction is the value.
-/

namespace FractionCalculator.Operand

inductive Written : Text → Operand → Prop where
  | whole {t : Text} {n : Int} (hn : Numeral t n) : Written t (.whole n)
  | fraction {s t : Text} {n d : Int} (hn : Numeral s n) (hd : Numeral t d) :
    Written (s ++ '/' :: t) (.fraction n d)
  | mixed {s t u : Text} {w n d : Int} (hw : Numeral s w) (hn : Numeral t n) (hd : Numeral u d)
    (ht : IsDigits t) (hu : IsDigits u) : Written (s ++ '_' :: (t ++ '/' :: u)) (.mixed w n d)

theorem IsSignedDigits.not_mem {t : Text} (h : IsSignedDigits t) {c : Char}
    (hd : c.isDigit = false) (hm : c ≠ '-') : c ∉ t := by
  intro hc
  cases h with
  | unsigned h => exact h.not_mem hd hc
  | signed h =>
    rcases List.mem_cons.1 hc with hc | hc
    · exact hm hc
    · exact h.not_mem hd hc

theorem IsDigits.head?_ne_minus {t : Text} (h : IsDigits t) : t.head? ≠ some '-' :=
  fun hm => h.not_mem rfl (List.mem_of_mem_head? hm)

theorem IsSignedDigits.isDigits {t : Text} (h : IsSignedDigits t)
    (hm : t.head? ≠ some '-') : IsDigits t := by
  cases h with
  | unsigned h => exact h
  | signed h => exact absurd rfl hm

theorem fractionParts?_eq_some_iff {t n d : Text} :
    fractionParts? t = some (n, d) ↔
      t = n ++ '/' :: d ∧ IsSignedDigits n ∧ IsSignedDigits d := by
  constructor
  · intro h
    obtain ⟨⟨n', r⟩, hn, h⟩ := Option.bind_eq_some_iff.1 h
    dsimp only at h
    split at h
    · next r =>
      obtain ⟨⟨d', r'⟩, hd, h⟩ := Option.bind_eq_some_iff.1 h
      dsimp only at h
      split_ifs at h with hr
      obtain ⟨rfl, rfl⟩ := by simpa using h
      refine ⟨?_, isSignedDigits_of_scanInteger hn, isSignedDigits_of_scanInteger hd⟩
      rw [← append_of_scanInteger hn, ← append_of_scanInteger hd, hr, List.append_nil]
    · simp at h
  · intro h
    obtain ⟨rfl, hn, hd⟩ := h
    have hs := scanInteger_append hd (r := []) (by simp)
    rw [List.append_nil] at hs
    simp [fractionParts?, scanInteger_append hn (r := '/' :: d) (by simp), hs]

theorem mixedParts?_eq_some_iff {t w n d : Text} :
    mixedParts? t = some (w, n, d) ↔ t = w ++ '_' :: (n ++ '/' :: d) ∧
      IsSignedDigits w ∧ IsSignedDigits n ∧ IsSignedDigits d := by
  constructor
  · intro h
    obtain ⟨⟨w', r⟩, hw, h⟩ := Option.bind_eq_some_iff.1 h
    dsimp only at h
    split at h
    · next r =>
      obtain ⟨⟨n', d'⟩, hf, h⟩ := Option.bind_eq_some_iff.1 h
      obtain ⟨rfl, rfl, rfl⟩ := by simpa using h
      obtain ⟨rfl, hn, hd⟩ := fractionParts?_eq_some_iff.1 hf
      exact ⟨(append_of_scanInteger hw).symm, isSignedDigits_of_scanInteger hw, hn, hd⟩
    · simp at h
  · intro h
    obtain ⟨rfl, hw, hn, hd⟩ := h
    have hf := fractionParts?_eq_some_iff.2 ⟨rfl, hn, hd⟩
    simp [mixedParts?, scanInteger_append hw (r := '_' :: (n ++ '/' :: d)) (by simp), hf]

theorem Numeral.not_mem {t : Text} {n : Int} (h : Numeral t n) {c : Char}
    (hd : c.isDigit = false) (hm : c ≠ '-') : c ∉ t :=
  h.isSignedDigits.not_mem hd hm

/-- A text writes one operand at most: its marks give the form, and each part is cut off there. -/
theorem Written.unique {t : Text} {o p : Operand} (ho : Written t o) (hp : Written t p) :
    o = p := by
  cases ho with
  | whole hn =>
    have hslash : '/' ∉ _ := hn.not_mem rfl (by decide)
    cases hp with
    | whole hn' => rw [hn.unique hn']
    | fraction => exact absurd (by simp) hslash
    | mixed => exact absurd (by simp) hslash
  | @fraction s u n d hn hd =>
    have hparts := fractionParts?_eq_some_iff.2 ⟨rfl, hn.isSignedDigits, hd.isSignedDigits⟩
    have hslash : '/' ∈ s ++ '/' :: u := by simp
    have hbar : '_' ∉ s ++ '/' :: u := by simp [hn.not_mem, hd.not_mem]
    generalize s ++ '/' :: u = t at hp hparts hslash hbar
    cases hp with
    | whole hn' => exact absurd hslash (hn'.not_mem rfl (by decide))
    | fraction hn' hd' =>
      rw [fractionParts?_eq_some_iff.2 ⟨rfl, hn'.isSignedDigits, hd'.isSignedDigits⟩] at hparts
      obtain ⟨rfl, rfl⟩ := by simpa using hparts
      rw [hn.unique hn', hd.unique hd']
    | mixed => exact absurd (by simp) hbar
  | @mixed s u v w n d hw hn hd hu hv =>
    have hparts := mixedParts?_eq_some_iff.2
      ⟨rfl, hw.isSignedDigits, hn.isSignedDigits, hd.isSignedDigits⟩
    have hslash : '/' ∈ s ++ '_' :: (u ++ '/' :: v) := by simp
    have hbar : '_' ∈ s ++ '_' :: (u ++ '/' :: v) := by simp
    generalize s ++ '_' :: (u ++ '/' :: v) = t at hp hparts hslash hbar
    cases hp with
    | whole hn' => exact absurd hslash (hn'.not_mem rfl (by decide))
    | fraction hn' hd' =>
      exact absurd hbar (by simp [hn'.not_mem, hd'.not_mem])
    | mixed hw' hn' hd' _ _ =>
      rw [mixedParts?_eq_some_iff.2
        ⟨rfl, hw'.isSignedDigits, hn'.isSignedDigits, hd'.isSignedDigits⟩] at hparts
      obtain ⟨rfl, rfl, rfl⟩ := by simpa using hparts
      rw [hw.unique hw', hn.unique hn', hd.unique hd']

theorem parseWhole_eq_ok_iff {t : Text} {f : Fraction} :
    parseWhole t = .ok f ↔ ∃ n, Numeral t n ∧ Fraction.whole n = f := by
  simp only [parseWhole, bind_eq_ok_iff, parseInteger_eq_ok_iff, pure, Except.pure, Except.ok.injEq]

theorem parseFraction_eq_ok_iff {t : Text} {f : Fraction} :
    parseFraction t = .ok f ↔ ∃ s u n d, t = s ++ '/' :: u ∧ Numeral s n ∧ Numeral u d ∧
      Fraction.ofPair n d = .ok f := by
  constructor
  · intro h
    rw [parseFraction] at h
    split at h
    · simp at h
    · next s u hp =>
      simp only [bind_eq_ok_iff, parseInteger_eq_ok_iff, mapError_eq_ok_iff] at h
      obtain ⟨n, hn, d, hd, hf⟩ := h
      exact ⟨s, u, n, d, (fractionParts?_eq_some_iff.1 hp).1, hn, hd, hf⟩
  · intro h
    obtain ⟨s, u, n, d, rfl, hn, hd, hf⟩ := h
    have hp := fractionParts?_eq_some_iff.2 ⟨rfl, hn.isSignedDigits, hd.isSignedDigits⟩
    simp only [parseFraction, hp, bind_eq_ok_iff, parseInteger_eq_ok_iff, mapError_eq_ok_iff]
    exact ⟨n, hn, d, hd, hf⟩

theorem parseMixed_eq_ok_iff {t : Text} {f : Fraction} :
    parseMixed t = .ok f ↔ ∃ s u v w n d, t = s ++ '_' :: (u ++ '/' :: v) ∧ Numeral s w ∧
      Numeral u n ∧ Numeral v d ∧ IsDigits u ∧ IsDigits v ∧ Fraction.mixed w n d = .ok f := by
  constructor
  · intro h
    rw [parseMixed] at h
    split at h
    · simp at h
    · next s u v hp =>
      obtain ⟨ht, -, hu, hv⟩ := mixedParts?_eq_some_iff.1 hp
      split_ifs at h with hm
      rw [not_or] at hm
      simp only [bind_eq_ok_iff, parseInteger_eq_ok_iff, mapError_eq_ok_iff] at h
      obtain ⟨w, hw, n, hn, d, hd, hf⟩ := h
      exact ⟨s, u, v, w, n, d, ht, hw, hn, hd, hu.isDigits hm.1, hv.isDigits hm.2, hf⟩
  · intro h
    obtain ⟨s, u, v, w, n, d, rfl, hw, hn, hd, hu, hv, hf⟩ := h
    have hp := mixedParts?_eq_some_iff.2 ⟨rfl, hw.isSignedDigits, .unsigned hu, .unsigned hv⟩
    have hm : ¬(u.head? = some '-' ∨ v.head? = some '-') :=
      not_or.2 ⟨hu.head?_ne_minus, hv.head?_ne_minus⟩
    simp only [parseMixed, hp, if_neg hm, bind_eq_ok_iff, parseInteger_eq_ok_iff,
      mapError_eq_ok_iff]
    exact ⟨w, hw, n, hn, d, hd, hf⟩

/-- Reading an operand gives the value of the components that its text writes. -/
theorem parse_eq_ok_iff {t : Text} {f : Fraction} :
    parse t = .ok f ↔ ∃ o, Written t o ∧ o.value = .ok f := by
  constructor
  · intro h
    rw [parse] at h
    split_ifs at h
    · obtain ⟨s, u, v, w, n, d, rfl, hw, hn, hd, hu, hv, hf⟩ := parseMixed_eq_ok_iff.1 h
      exact ⟨.mixed w n d, .mixed hw hn hd hu hv, hf⟩
    · obtain ⟨s, u, n, d, rfl, hn, hd, hf⟩ := parseFraction_eq_ok_iff.1 h
      exact ⟨.fraction n d, .fraction hn hd, hf⟩
    · obtain ⟨n, hn, rfl⟩ := parseWhole_eq_ok_iff.1 h
      exact ⟨.whole n, .whole hn, rfl⟩
  · intro h
    obtain ⟨o, hw, hf⟩ := h
    cases hw with
    | whole hn =>
      rw [parse, if_neg (hn.not_mem rfl (by decide)), if_neg (hn.not_mem rfl (by decide))]
      exact parseWhole_eq_ok_iff.2 ⟨_, hn, Except.ok.inj hf⟩
    | fraction hn hd =>
      rw [parse, if_neg, if_pos (by simp), if_neg]
      · exact parseFraction_eq_ok_iff.2 ⟨_, _, _, _, rfl, hn, hd, hf⟩
      · simp [hn.not_mem, hd.not_mem]
      · simp [hn.not_mem, hd.not_mem]
    | mixed hw hn hd hu hv =>
      rw [parse, if_neg, if_pos (by simp), if_pos (by simp)]
      · exact parseMixed_eq_ok_iff.2 ⟨_, _, _, _, _, _, rfl, hw, hn, hd, hu, hv, hf⟩
      · simp [hw.not_mem, hn.not_mem, hd.not_mem]

end FractionCalculator.Operand
