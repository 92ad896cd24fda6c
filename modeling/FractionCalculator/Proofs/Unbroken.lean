import FractionCalculator.Console.Program
import FractionCalculator.Proofs.Lines
import FractionCalculator.Proofs.Notation
import FractionCalculator.Proofs.Tokens

/-!
# Records on one line

A line of input has no line feed in it. What a calculator says about such a text,
in a record or in a rejection, has none either: it quotes parts of the text, as
they are or in the quoted form, and adds numbers and fixed words. So each record
of a session takes up one line of the log, whatever bytes the session is given.
-/

namespace FractionCalculator

namespace Text

theorem trim_subset (t : Text) : t.trim ⊆ t := by
  intro c hc
  have hd := List.mem_reverse.1 ((List.dropWhile_sublist isBlank).subset (List.mem_reverse.1 hc))
  exact (List.dropWhile_sublist isBlank).subset hd

theorem lineFeed_not_mem_literal (cs : List Char) (h : '\n' ∉ cs) :
    '\n' ∉ (String.ofList cs).toList := by
  rwa [String.toList_ofList]

theorem lineFeed_not_mem_toDigits {b n : Nat} (hb : 1 < b) (hle : b ≤ 16) :
    '\n' ∉ Nat.toDigits b n := by
  have digit : ∀ d < 16, Nat.digitChar d ≠ '\n' := by decide
  induction n using Nat.strongRecOn with
  | ind n ih =>
    by_cases hn : n < b
    · rw [Nat.toDigits_of_lt_base hn]
      simp [(digit n (by omega)).symm]
    · have hlt : n / b < n := Nat.div_lt_self (by omega) hb
      have hm : n % b < b := Nat.mod_lt n (by omega)
      rw [Nat.toDigits_of_base_le hb (by omega)]
      simp [ih (n / b) hlt, (digit (n % b) (by omega)).symm]

theorem lineFeed_not_mem_quoted (t : Text) : '\n' ∉ t.quoted := by
  have one : ∀ c, '\n' ∉ Quoted.char c := by
    intro c
    by_cases hn : c = '\n'
    · rw [hn]
      decide
    · unfold Quoted.char
      split
      case h_7 =>
        split
        · simpa using Ne.symm hn
        · simp [Quoted.codePoint, lineFeed_not_mem_toDigits]
      all_goals decide
  simp [quoted, one]

end Text

open Text

@[simp] theorem Decimal.lineFeed_not_mem_ofNat (n : Nat) : '\n' ∉ Decimal.ofNat n :=
  lineFeed_not_mem_toDigits (by decide) (by decide)

@[simp] theorem Decimal.lineFeed_not_mem_ofInt (n : Int) : '\n' ∉ Decimal.ofInt n := by
  unfold Decimal.ofInt
  split <;> simp

@[simp] theorem Fraction.lineFeed_not_mem_display (f : Fraction) : '\n' ∉ f.display := by
  simp [Fraction.display]

/-! ## Rejections -/

def Step.Unbroken : Step → Prop
  | .integer t => '\n' ∉ t
  | _ => True

theorem Step.Unbroken.lineFeed_not_mem_name {step : Step} (h : step.Unbroken) :
    '\n' ∉ step.name := by
  cases step with
  | integer t => exact List.not_mem_append (lineFeed_not_mem_literal _ (by decide)) h
  | _ => exact lineFeed_not_mem_literal _ (by decide)

def Rejection.Unbroken : Rejection → Prop
  | .inputTooLong .. | .wrongTokenCount _ => True
  | .unknownOperator t | .decimalNotSupported t | .illegalMixedNumberSign t
  | .malformedOperand _ t | .integerOverflow t | .undefinedFraction t => '\n' ∉ t

theorem Rejection.Unbroken.lineFeed_not_mem_message {cause : Rejection} (h : cause.Unbroken) :
    '\n' ∉ cause.message := by
  unfold Rejection.message
  cases cause with
  | inputTooLong length max =>
    dsimp only
    simp only [List.mem_append, not_or]
    exact ⟨⟨⟨lineFeed_not_mem_literal _ (by decide), Decimal.lineFeed_not_mem_ofNat length⟩,
      lineFeed_not_mem_literal _ (by decide)⟩, Decimal.lineFeed_not_mem_ofNat max⟩
  | wrongTokenCount count =>
    exact List.not_mem_append (lineFeed_not_mem_literal _ (by decide))
      (Decimal.lineFeed_not_mem_ofNat count)
  | malformedOperand expected operand =>
    have hd : '\n' ∉ expected.description := by
      cases expected <;> exact lineFeed_not_mem_literal _ (by decide)
    dsimp only
    simp only [List.mem_append, not_or]
    exact ⟨⟨⟨lineFeed_not_mem_literal _ (by decide), hd⟩,
      lineFeed_not_mem_literal _ (by decide)⟩, h⟩
  | unknownOperator t | decimalNotSupported t | illegalMixedNumberSign t =>
    exact List.not_mem_append (lineFeed_not_mem_literal _ (by decide)) h
  | integerOverflow t =>
    exact List.not_mem_append h (lineFeed_not_mem_literal _ (by decide))
  | undefinedFraction t =>
    dsimp only
    simp only [List.mem_append, not_or]
    exact ⟨⟨lineFeed_not_mem_literal _ (by decide), h⟩, lineFeed_not_mem_literal _ (by decide)⟩

theorem unbroken_overZero (n : Int) : (Rejection.overZero n).Unbroken := by
  change '\n' ∉ Decimal.ofInt n ++ "/0".toList
  simp

/-- A computation that quotes no line feed if it is refused. -/
def Orderly {α : Type} (x : Except Rejection α) : Prop :=
  ∀ cause, x = .error cause → cause.Unbroken

namespace Orderly

variable {α β : Type}

theorem ok (a : α) : Orderly (.ok a : Except Rejection α) := by
  intro cause h
  cases h

theorem error {cause : Rejection} (h : cause.Unbroken) :
    Orderly (.error cause : Except Rejection α) := by
  intro cause' h'
  cases h'
  exact h

theorem bind {x : Except Rejection α} {f : α → Except Rejection β} (hx : Orderly x)
    (hf : ∀ a, x = .ok a → Orderly (f a)) : Orderly (x >>= f) := by
  intro cause h
  cases x with
  | error e => exact hx cause (by cases h; rfl)
  | ok a => exact hf a rfl cause h

theorem checked {step : Step} (h : step.Unbroken) (n : Int) : Orderly (step.checked n) := by
  intro cause hc
  unfold Step.checked at hc
  split at hc
  · cases hc
  · cases hc
    exact h.lineFeed_not_mem_name

theorem ite {p : Prop} [Decidable p] {x y : Except Rejection α} (hx : p → Orderly x)
    (hy : ¬p → Orderly y) : Orderly (if p then x else y) := by
  by_cases h : p
  · rw [if_pos h]
    exact hx h
  · rw [if_neg h]
    exact hy h

end Orderly

namespace Fraction

theorem orderly_ofPair (n d : Int) : Orderly (ofPair n d) := by
  refine .ite (fun _ => .error (unbroken_overZero _)) fun _ => .ite (fun _ => .ok _) fun _ => ?_
  refine .bind (.checked (by trivial) _) fun n' _ => .bind (.checked (by trivial) _) fun d' _ => ?_
  exact .ok _

theorem orderly_mixed (w n d : Int) : Orderly (mixed w n d) := by
  have hc (m : Int) : Orderly (Step.mixedConversion.checked m) := .checked (by trivial) m
  have hn : Orderly (mixedNumerator w n d) := by
    refine .ite (fun _ => .ok _) fun _ => ?_
    refine .bind (hc _) fun magnitude _ => .bind (hc _) fun scaled _ => .bind (hc _) fun total _ => ?_
    exact .ite (fun _ => hc _) fun _ => .ok _
  refine .ite (fun _ => .error (unbroken_overZero _)) fun _ => ?_
  exact .bind hn fun m _ => orderly_ofPair m d

theorem orderly_commonDenominator (l r : Fraction) : Orderly (l.commonDenominator r) := by
  have hc (m : Int) : Orderly (Step.commonDenominator.checked m) := .checked (by trivial) m
  refine .bind (hc _) fun d _ => .bind (hc _) fun n _ => .bind (orderly_ofPair _ _) fun l' _ => ?_
  refine .bind (hc _) fun m _ => .bind (orderly_ofPair _ _) fun r' _ => ?_
  exact .ok _

theorem orderly_evaluate (l r : Fraction) (op : Operator) : Orderly (l.evaluate op r) := by
  cases op with
  | add =>
    refine .bind (orderly_commonDenominator l r) fun p _ => ?_
    exact .bind (.checked (by trivial) _) fun n _ => orderly_ofPair _ _
  | subtract =>
    refine .bind (orderly_commonDenominator l r) fun p _ => ?_
    exact .bind (.checked (by trivial) _) fun n _ => orderly_ofPair _ _
  | multiply =>
    refine .bind (.checked (by trivial) _) fun n _ => .bind (.checked (by trivial) _) fun d _ => ?_
    exact orderly_ofPair n d
  | divide =>
    have hc (m : Int) : Orderly (Step.division.checked m) := .checked (by trivial) m
    refine .bind (hc _) fun n _ => .bind (hc _) fun d _ => .ite (fun _ => ?_) fun _ => ?_
    · exact .bind (hc _) fun n' _ => .bind (hc _) fun d' _ => orderly_ofPair n' d'
    · exact orderly_ofPair n d

theorem orderly_text (f : Fraction) : Orderly f.text := by
  have hr : Orderly f.reduce := by
    refine .ite (fun _ => .error (unbroken_overZero _)) fun _ => .ite (fun _ => .ok _) fun _ => ?_
    refine .bind (.checked (by trivial) _) fun n _ => .bind (.checked (by trivial) _) fun d _ => ?_
    exact .ok _
  have hc (m : Int) : Orderly (Step.formatting.checked m) := .checked (by trivial) m
  refine .bind hr fun g _ => .ite (fun _ => .ok _) fun _ => ?_
  refine .bind (hc _) fun remainder _ => .bind (hc _) fun quotient _ => ?_
  refine .ite (fun _ => .ok _) fun _ => ?_
  refine .bind (hc _) fun magnitude _ => .bind (hc _) fun limit _ => ?_
  refine .ite (fun _ => .ok _) fun _ => .bind (hc _) fun part _ => .ok _

theorem lineFeed_not_mem_text {f : Fraction} {t : Text} (h : f.text = .ok t) : '\n' ∉ t := by
  obtain ⟨g, -, hg⟩ := bind_eq_ok_iff.1 h
  unfold reducedText at hg
  dsimp only at hg
  split at hg
  · cases hg
    decide
  · simp only [bind_eq_ok_iff] at hg
    obtain ⟨remainder, -, quotient, -, hg⟩ := hg
    split at hg
    · cases hg
      simp
    · simp only [bind_eq_ok_iff] at hg
      obtain ⟨magnitude, -, limit, -, hg⟩ := hg
      split at hg
      · cases hg
        simp
      · obtain ⟨part, -, hg⟩ := bind_eq_ok_iff.1 hg
        cases hg
        simp

end Fraction

namespace Operand

variable {t : Text}

theorem orderly_parseInteger (h : '\n' ∉ t) : Orderly (parseInteger t) := by
  have hs : (Step.integer t).Unbroken := h
  refine .ite (fun _ => .error h) fun _ => .ite (fun _ => .error ?_) fun _ => .checked hs _
  exact hs.lineFeed_not_mem_name

theorem orderly_mapError_asTyped {x : Except Rejection Fraction} (hx : Orderly x) (h : '\n' ∉ t) :
    Orderly (x.mapError (asTyped t)) := by
  intro cause hc
  cases x with
  | ok f => cases hc
  | error e =>
    have he : e.Unbroken := hx e rfl
    cases hc
    cases e with
    | undefinedFraction u => exact h
    | _ => exact he

theorem orderly_parseFraction (h : '\n' ∉ t) : Orderly (parseFraction t) := by
  unfold parseFraction
  cases hp : fractionParts? t with
  | none => exact .error h
  | some parts =>
    obtain ⟨rfl, -, -⟩ := fractionParts?_eq_some_iff.1 hp
    obtain ⟨hn, -, hd⟩ : '\n' ∉ parts.1 ∧ '\n' ≠ '/' ∧ '\n' ∉ parts.2 := by simpa using h
    refine .bind (orderly_parseInteger hn) fun n _ => .bind (orderly_parseInteger hd) fun d _ => ?_
    exact orderly_mapError_asTyped (Fraction.orderly_ofPair n d) h

theorem orderly_parseMixed (h : '\n' ∉ t) : Orderly (parseMixed t) := by
  unfold parseMixed
  cases hp : mixedParts? t with
  | none => exact .error h
  | some parts =>
    obtain ⟨rfl, -, -, -⟩ := mixedParts?_eq_some_iff.1 hp
    obtain ⟨hw, hn, hd⟩ : '\n' ∉ parts.1 ∧ '\n' ∉ parts.2.1 ∧ '\n' ∉ parts.2.2 := by
      simpa using h
    refine .ite (fun _ => .error h) fun _ => ?_
    refine .bind (orderly_parseInteger hw) fun w _ => .bind (orderly_parseInteger hn) fun n _ => ?_
    refine .bind (orderly_parseInteger hd) fun d _ => ?_
    exact orderly_mapError_asTyped (Fraction.orderly_mixed w n d) h

theorem orderly_parse (h : '\n' ∉ t) : Orderly (parse t) := by
  refine .ite (fun _ => .error h) fun _ => .ite (fun _ => ?_) fun _ => ?_
  · exact .ite (fun _ => orderly_parseMixed h) fun _ => orderly_parseFraction h
  · exact .bind (orderly_parseInteger h) fun n _ => .ok _

end Operand

theorem Operator.orderly_parse {t : Text} (h : '\n' ∉ t) : Orderly (Operator.parse t) := by
  unfold Operator.parse
  split
  · exact .ok _
  · exact .error h

theorem Query.orderly_tokenize (input : Text) (limit : Nat) : Orderly (tokenize input limit) := by
  refine .ite (fun _ => .error trivial) fun _ => ?_
  split
  · exact .ok _
  · exact .error trivial

theorem Query.lineFeed_not_mem_tokens {input : Text} {limit : Nat} {tokens : Tokens}
    (h : '\n' ∉ input) (ht : tokenize input limit = .ok tokens) :
    '\n' ∉ tokens.left ∧ '\n' ∉ tokens.operator ∧ '\n' ∉ tokens.right := by
  obtain ⟨-, -, -, -, i, j, hs⟩ := tokenize_eq_ok_iff.1 ht
  have hn : '\n' ∉ input.trim := fun hm => h (trim_subset input hm)
  rw [hs] at hn
  simp only [List.mem_append, not_or] at hn
  exact ⟨hn.1, hn.2.2.1, hn.2.2.2.2⟩

/-! ## Records -/

namespace Log.Traced

variable {α β : Type}

structure Unbroken (x : Traced α) : Prop where
  records : ∀ r ∈ x.records, '\n' ∉ r.message
  outcome : Orderly x.outcome

namespace Unbroken

theorem pure (a : α) : (Pure.pure a : Traced α).Unbroken :=
  ⟨fun _ hr => absurd hr List.not_mem_nil, .ok a⟩

theorem note {record : Record} (h : '\n' ∉ record.message) : (Traced.note record).Unbroken := by
  refine ⟨fun r hr => ?_, .ok ()⟩
  rw [List.mem_singleton.1 hr]
  exact h

theorem lift {x : Except Rejection α} (h : Orderly x) : (liftM x : Traced α).Unbroken :=
  ⟨fun _ hr => absurd hr List.not_mem_nil, h⟩

theorem bind {x : Traced α} {f : α → Traced β} (hx : x.Unbroken)
    (hf : ∀ a, x.outcome = .ok a → (f a).Unbroken) : (x >>= f).Unbroken := by
  cases ho : x.outcome with
  | error cause =>
    rw [bind_of_error ho]
    exact ⟨hx.records, .error (hx.outcome cause ho)⟩
  | ok a =>
    have ha := hf a ho
    rw [bind_of_ok ho]
    refine ⟨fun r hr => ?_, ha.outcome⟩
    rcases List.mem_append.1 hr with hr | hr
    · exact hx.records r hr
    · exact ha.records r hr

end Unbroken
end Log.Traced

namespace Calculator

open Log

theorem unbroken_parse (c : Calculator) {input : Text} (h : '\n' ∉ input) :
    (c.parse input).Unbroken := by
  refine .bind (.note ?_) fun _ _ => .bind (.lift (Query.orderly_tokenize _ _)) fun tokens ht => ?_
  · simp [lineFeed_not_mem_quoted]
  obtain ⟨hl, ho, hr⟩ := Query.lineFeed_not_mem_tokens h ht
  refine .bind (.note ?_) fun _ _ => .bind (.lift (Operand.orderly_parse hl)) fun left _ => ?_
  · simp [hl]
  refine .bind (.note ?_) fun _ _ => .bind (.lift (Operand.orderly_parse hr)) fun right _ => ?_
  · simp [hr]
  refine .bind (.note ?_) fun _ _ => .bind (.lift (Operator.orderly_parse ho)) fun op _ => .pure _
  · simp [ho]

theorem unbroken_evaluate (c : Calculator) (query : Query) : (c.evaluate query).Unbroken := by
  have hs : '\n' ≠ query.operator.symbol := by cases query.operator <;> decide
  refine .bind (.note ?_) fun _ _ => .lift (Fraction.orderly_evaluate _ _ _)
  simp [hs]

theorem unbroken_execute (c : Calculator) {input : Text} (h : '\n' ∉ input) :
    (c.execute input).Unbroken := by
  have hn : '\n' ∉ input.trim := fun hm => h (trim_subset input hm)
  refine .bind (unbroken_parse c h) fun query _ => .bind (unbroken_evaluate c query) fun value _ => ?_
  refine .bind (.lift value.orderly_text) fun answer ha => .bind (.note ?_) fun _ _ => .pure _
  simp [hn, Fraction.lineFeed_not_mem_text ha]

end Calculator

namespace Console

def Line.Unbroken : Line → Prop
  | .text t => '\n' ∉ t
  | .unreadable => True

namespace Line

theorem Cut.lineFeed_not_mem {stream : List UInt8} {lines : List (List UInt8)}
    (h : Cut stream lines) : ∀ bytes ∈ lines, lineFeed ∉ bytes := by
  induction h with
  | done => intro bytes hm; exact absurd hm List.not_mem_nil
  | rest hne h =>
    intro bytes hm
    rw [List.mem_singleton.1 hm]
    exact h
  | fed h hr _ ih => exact List.forall_mem_cons.2 ⟨h, ih⟩
  | returned h _ ih => exact List.forall_mem_cons.2 ⟨h, ih⟩

theorem unbroken_ofBytes {bytes : List UInt8} (h : lineFeed ∉ bytes) : (ofBytes bytes).Unbroken := by
  unfold ofBytes
  cases ht : Text.ofUtf8? bytes with
  | none => trivial
  | some t =>
    intro hm
    rw [← Text.utf8_of_ofUtf8? ht] at h
    exact h (List.mem_flatMap.2 ⟨'\n', hm, by decide⟩)

theorem unbroken_of_mem_read {stream : List UInt8} {line : Line} (h : line ∈ read stream) :
    line.Unbroken := by
  obtain ⟨bytes, hm, rfl⟩ := List.mem_map.1 h
  exact unbroken_ofBytes ((cut_spec stream).lineFeed_not_mem bytes hm)

end Line

namespace Session

theorem lineFeed_not_mem_reply (c : Calculator) {line : Line} (h : line.Unbroken) :
    ∀ r ∈ (reply c line).records, '\n' ∉ r.message := by
  cases line with
  | unreadable =>
    intro r hr
    rw [List.mem_singleton.1 hr]
    decide
  | text t =>
    have hx := Calculator.unbroken_execute c h
    unfold reply
    cases ho : (c.execute t).outcome with
    | ok answer => simpa only [ho] using hx.records
    | error cause =>
      simp only [ho]
      intro r hr
      rcases List.mem_append.1 hr with hr | hr
      · exact hx.records r hr
      · rw [List.mem_singleton.1 hr]
        exact (hx.outcome cause ho).lineFeed_not_mem_message

theorem lineFeed_not_mem_replies (c : Calculator) {lines : List Line}
    (h : ∀ line ∈ lines, line.Unbroken) :
    ∀ r ∈ (replies c lines).records, '\n' ∉ r.message := by
  induction lines with
  | nil => intro r hr; exact absurd hr List.not_mem_nil
  | cons line rest ih =>
    obtain ⟨hl, hr⟩ := List.forall_mem_cons.1 h
    intro r hm
    rcases List.mem_append.1 hm with hm | hm
    · rcases List.mem_append.1 hm with hm | hm
      · exact lineFeed_not_mem_reply c hl r hm
      · exact absurd hm List.not_mem_nil
    · exact ih hr r hm

theorem lineFeed_not_mem_run (c : Calculator) (stream : List UInt8) :
    ∀ r ∈ (run c stream).records, '\n' ∉ r.message :=
  lineFeed_not_mem_replies c fun _ hm =>
    Line.unbroken_of_mem_read ((List.takeWhile_sublist _).subset hm)

end Session

theorem Program.lineFeed_not_mem_records (v : Log.Verbosity) (stream : List UInt8) :
    ∀ r ∈ records v (Session.run calculator stream), '\n' ∉ r.message := by
  have hv : '\n' ∉ v.name := by
    rcases v with _ | level
    · decide
    · cases level <;> decide
  intro r hr
  rcases List.mem_append.1 hr with hr | hr
  · rcases List.mem_cons.1 hr with rfl | hr
    · change '\n' ∉ "Logger initiated at ".toList ++ v.name
      simp [hv]
    · exact Session.lineFeed_not_mem_run calculator stream r hr
  · rw [List.mem_singleton.1 hr]
    decide

end Console
end FractionCalculator
