import FractionCalculator.Json.Record
import FractionCalculator.Rejection

/-!
# Messages

What the service and its clients tell each other, each message a record of
texts: a query, its result, or the code and message of its rejection. A message is
laid out as its named fields, and made from the texts of the fields again.
-/

namespace FractionCalculator.Message

class Layout (α : Type) where
  names : List Text
  texts : α → List Text
  ofTexts? : List Text → Option α
  ofTexts?_texts : ∀ a, ofTexts? (texts a) = some a
  length_texts : ∀ a, (texts a).length = names.length

structure Request where
  query : Text
deriving DecidableEq, Repr

structure Response where
  result : Text
deriving DecidableEq, Repr

structure Refusal where
  code : Text
  message : Text
deriving DecidableEq, Repr

instance : Layout Request where
  names := ["query".toList]
  texts r := [r.query]
  ofTexts?
    | [query] => some ⟨query⟩
    | _ => none
  ofTexts?_texts _ := rfl
  length_texts _ := rfl

instance : Layout Response where
  names := ["result".toList]
  texts r := [r.result]
  ofTexts?
    | [result] => some ⟨result⟩
    | _ => none
  ofTexts?_texts _ := rfl
  length_texts _ := rfl

instance : Layout Refusal where
  names := ["code".toList, "message".toList]
  texts r := [r.code, r.message]
  ofTexts?
    | [code, message] => some ⟨code, message⟩
    | _ => none
  ofTexts?_texts _ := rfl
  length_texts _ := rfl

def write {α : Type} [Layout α] (a : α) : Text :=
  Json.Record.write ((Layout.names α).zip (Layout.texts a))

def read (α : Type) [Layout α] (t : Text) : Except Json.Fault α :=
  match Json.Record.read (Layout.names α) t with
  | .error fault => .error fault
  | .ok texts =>
    match Layout.ofTexts? texts with
    | some a => .ok a
    | none => .error .misfit

def refusal (r : Rejection) : Refusal :=
  ⟨r.code, r.message⟩

end FractionCalculator.Message
