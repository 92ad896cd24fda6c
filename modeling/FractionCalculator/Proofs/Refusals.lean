import FractionCalculator.Proofs.Messages
import FractionCalculator.Proofs.Numeral

/-!
# Codes and messages

The code of a rejection tells the kind of its cause and the message tells the
rest: the words around what is quoted are fixed for each kind, so a client reads
the cause back from the two, whatever the quoted text imitates. Causes of two
kinds may have one message, but never with one code, and what is sent for two
causes differs on the wire.
-/

namespace FractionCalculator

/-! ## Reading between fixed words -/

namespace Text

def between? (text s t : Text) : Option Text := do
  (← text.dropPrefix? s).dropSuffix? t

def numbers? (text s t : Text) : Option (Nat × Nat) := do
  let rest ← text.dropPrefix? s
  let last ← (rest.dropWhile Char.isDigit).dropPrefix? t
  return (Decimal.natValue (rest.takeWhile Char.isDigit), Decimal.natValue last)

theorem dropPrefix?_append (s t : Text) : (s ++ t).dropPrefix? s = some t :=
  List.dropPrefix?_eq_some_iff.2 ⟨s, rfl, beq_self_eq_true s⟩

theorem dropSuffix?_append (s t : Text) : (t ++ s).dropSuffix? s = some t :=
  List.dropSuffix?_eq_some_iff.2 ⟨s, rfl, beq_self_eq_true s⟩

theorem between?_append (s t text : Text) : between? (s ++ text ++ t) s t = some text := by
  rw [between?, List.append_assoc, dropPrefix?_append]
  exact dropSuffix?_append t text

theorem numbers?_append {s t : Text} {c : Char} (hc : c.isDigit = false) (m n : Nat) :
    numbers? (s ++ Decimal.ofNat m ++ c :: t ++ Decimal.ofNat n) s (c :: t) = some (m, n) := by
  have hd := Operand.isDigits_ofNat m
  have hr : ∀ a ∈ (c :: (t ++ Decimal.ofNat n)).head?, a.isDigit = false := by simpa using hc
  simp only [numbers?, List.append_assoc, dropPrefix?_append, List.cons_append,
    Option.bind_eq_bind, Option.bind_some, Operand.dropWhile_isDigit_append hd hr,
    Operand.takeWhile_isDigit_append hd hr]
  rw [← List.cons_append, dropPrefix?_append]
  simp

end Text

namespace Rejection

def quoting? (cause : Text → Rejection) (message : Text) : Option Rejection :=
  (message.dropPrefix? (cause []).message).map cause

theorem quoting?_message {cause : Text → Rejection} {s : Text}
    (h : ∀ t, (cause t).message = s ++ t) (t : Text) :
    quoting? cause (cause t).message = some (cause t) := by
  rw [quoting?, h, h, List.append_nil, Text.dropPrefix?_append, Option.map_some]

-- The three forms have one code, so the form is read from the message as well.
def malformed? (message : Text) : Option Rejection :=
  [Shape.whole, .fraction, .mixed].findSome? fun shape =>
    quoting? (.malformedOperand shape) message

theorem malformed?_message (shape : Shape) (t : Text) :
    malformed? (malformedOperand shape t).message = some (.malformedOperand shape t) := by
  have own : quoting? (.malformedOperand shape) (malformedOperand shape t).message =
      some (.malformedOperand shape t) := quoting?_message (fun _ => rfl) t
  cases shape with
  | whole => simp only [malformed?, List.findSome?_cons, own]
  | fraction =>
    have whole :
        quoting? (.malformedOperand .whole) (malformedOperand .fraction t).message = none := rfl
    simp only [malformed?, List.findSome?_cons, whole, own]
  | mixed =>
    have whole :
        quoting? (.malformedOperand .whole) (malformedOperand .mixed t).message = none := rfl
    have fraction :
        quoting? (.malformedOperand .fraction) (malformedOperand .mixed t).message = none := rfl
    simp only [malformed?, List.findSome?_cons, whole, fraction, own]

def codes : List Text :=
  ["input_too_long", "wrong_token_count", "unknown_operator", "decimal_not_supported",
    "illegal_mixed_number_sign", "malformed_operand", "integer_overflow",
    "undefined_fraction"].map String.toList

def readers : List (Text → Option Rejection) :=
  [fun message => (message.numbers? "Input query of ".toList
      " characters exceeds the maximum of ".toList).map fun p => .inputTooLong p.1 p.2,
    fun message =>
      (message.dropPrefix? "Invalid input query, expected 3 values but found ".toList).map
        fun count => .wrongTokenCount (Decimal.natValue count),
    quoting? .unknownOperator,
    quoting? .decimalNotSupported,
    quoting? .illegalMixedNumberSign,
    malformed?,
    fun message => (message.dropSuffix? (integerOverflow []).message).map .integerOverflow,
    fun message => (message.between? "Fraction ".toList " is undefined".toList).map
      .undefinedFraction]

/-- The cause of which a client was told the code and the message. -/
def recover? (code message : Text) : Option Rejection := do
  (← readers[codes.idxOf code]?) message

theorem idxOf_code (e : Rejection) : codes.idxOf e.code = e.ctorIdx := by
  cases e <;> rfl

theorem recover?_of_reader {e : Rejection} {reader : Text → Option Rejection}
    (h : readers[e.ctorIdx]? = some reader) (hr : reader e.message = some e) :
    recover? e.code e.message = some e := by
  rw [recover?, idxOf_code, h]
  exact hr

theorem recover?_code_message (e : Rejection) : recover? e.code e.message = some e := by
  cases e with
  | inputTooLong length max =>
    have h := Text.numbers?_append (s := "Input query of ".toList)
      (t := "characters exceeds the maximum of ".toList) (c := ' ') rfl length max
    exact recover?_of_reader rfl (congrArg (Option.map fun p => inputTooLong p.1 p.2) h)
  | wrongTokenCount count =>
    have h := Text.dropPrefix?_append "Invalid input query, expected 3 values but found ".toList
      (Decimal.ofNat count)
    have hv := congrArg (Option.map fun t => wrongTokenCount (Decimal.natValue t)) h
    rw [Option.map_some, Decimal.natValue_ofNat] at hv
    exact recover?_of_reader rfl hv
  | unknownOperator t => exact recover?_of_reader rfl (quoting?_message (fun _ => rfl) t)
  | decimalNotSupported t => exact recover?_of_reader rfl (quoting?_message (fun _ => rfl) t)
  | illegalMixedNumberSign t => exact recover?_of_reader rfl (quoting?_message (fun _ => rfl) t)
  | malformedOperand shape t => exact recover?_of_reader rfl (malformed?_message shape t)
  | integerOverflow t =>
    have h := Text.dropSuffix?_append (integerOverflow []).message t
    exact recover?_of_reader rfl (congrArg (Option.map integerOverflow) h)
  | undefinedFraction t =>
    have h := Text.between?_append "Fraction ".toList " is undefined".toList t
    exact recover?_of_reader rfl (congrArg (Option.map undefinedFraction) h)

theorem eq_of_code_of_message {e f : Rejection} (hc : e.code = f.code)
    (hm : e.message = f.message) : e = f := by
  have he := recover?_code_message e
  rw [hc, hm, recover?_code_message] at he
  exact (Option.some.inj he).symm

end Rejection

/-! ## On the wire -/

namespace Message

theorem read_write_refusal (a : Refusal) : read Refusal (write a) = .ok a :=
  read_write_of_nodup (by decide) a

def cause? (text : Text) : Option Rejection := do
  let told ← (read Refusal text).toOption
  Rejection.recover? told.code told.message

theorem cause?_write (e : Rejection) : cause? (write (refusal e)) = some e := by
  rw [cause?, read_write_refusal]
  exact Rejection.recover?_code_message e

/-- One reader finds the cause from the code and the message of its refusal, another from the text
that is sent; so different causes have different refusals and different texts. -/
theorem refusals_distinct (e : Rejection) :
    Rejection.recover? (refusal e).code (refusal e).message = some e ∧
    cause? (write (refusal e)) = some e ∧
    ∀ f, e ≠ f → refusal e ≠ refusal f ∧ write (refusal e) ≠ write (refusal f) := by
  refine ⟨Rejection.recover?_code_message e, cause?_write e,
    fun f h => ⟨fun same => h ?_, fun same => h ?_⟩⟩
  · obtain ⟨code, message⟩ := Refusal.mk.inj same
    exact Rejection.eq_of_code_of_message code message
  · have he := cause?_write e
    rw [same, cause?_write] at he
    exact (Option.some.inj he).symm

theorem refusals_distinct_imitating :
    let e : Rejection := .decimalNotSupported
      "1. exceeds the signed 32-bit integer range (-2,147,483,648 to 2,147,483,647)".toList
    let f : Rejection := .integerOverflow "Decimal numbers are not supported but found: 1.".toList
    e ≠ f ∧ e.message = f.message ∧ refusal e ≠ refusal f ∧
      write (refusal e) ≠ write (refusal f) := by
  intro e f
  have hne : e ≠ f := Rejection.noConfusion
  have hm : e.message = f.message := by decide +kernel
  obtain ⟨-, -, distinct⟩ := refusals_distinct e
  exact ⟨hne, hm, distinct f hne⟩

end Message
end FractionCalculator
