import FractionCalculator.Message
import FractionCalculator.Proofs.Objects

/-!
# Messages on the wire

A message is read from every text that holds it, and what is written for it is
one of these: the layout of the text, the spelling of its strings and other
members say nothing about the message.
-/

namespace FractionCalculator.Message

open Json (Blank Spells WellFormed escape isBlank spells_escape)
open Json.Record (Member Object)

variable {α : Type} [Layout α]

def fields (a : α) : List (Text × Text) :=
  (Layout.names α).zip (Layout.texts a)

/-- A text that is an object with each field of a message once, and any other members. -/
def Holds (a : α) (t : Text) : Prop :=
  ∃ held, Object (Layout.names α) t held ∧ held.Perm (fields a)

theorem map_fst_fields (a : α) : (fields a).map (·.1) = Layout.names α :=
  List.map_fst_zip (Nat.le_of_eq (Layout.length_texts a).symm)

theorem map_snd_fields (a : α) : (fields a).map (·.2) = Layout.texts a :=
  List.map_snd_zip (Nat.le_of_eq (Layout.length_texts a))

theorem read_of_holds (hn : (Layout.names α).Nodup) {a : α} {t : Text} (h : Holds a t) :
    read α t = .ok a := by
  obtain ⟨held, ho, hp⟩ := h
  rw [← map_fst_fields a] at ho hn
  have hr := Json.Record.read_of_object ho hp hn
  rw [map_fst_fields, map_snd_fields] at hr
  rw [read, hr]
  dsimp only
  rw [Layout.ofTexts?_texts]

theorem holds_write (a : α) : Holds a (write a) := by
  refine ⟨fields a, Json.Record.object_write fun p hp => ?_, List.Perm.refl _⟩
  rw [← map_fst_fields a]
  exact List.mem_map_of_mem hp

theorem read_write_of_nodup (h : (Layout.names α).Nodup) (a : α) : read α (write a) = .ok a :=
  read_of_holds h (holds_write a)

theorem write_eq :
    (∀ query, write (Request.mk query) = "\x7b\"query\":".toList ++ Json.quote query ++ ['\x7d']) ∧
    (∀ result, write (Response.mk result) =
      "\x7b\"result\":".toList ++ Json.quote result ++ ['\x7d']) ∧
    ∀ code message, write (Refusal.mk code message) = "\x7b\"code\":".toList ++ Json.quote code ++
      ",\"message\":".toList ++ Json.quote message ++ ['\x7d'] := by
  have hq : Json.quote "query".toList = "\"query\"".toList := by decide
  have hr : Json.quote "result".toList = "\"result\"".toList := by decide
  have hc : Json.quote "code".toList = "\"code\"".toList := by decide
  have hm : Json.quote "message".toList = "\"message\"".toList := by decide
  refine ⟨fun query => ?_, fun result => ?_, fun code message => ?_⟩
  · change '\x7b' :: List.intercalate [','] [Json.quote "query".toList ++ ':' :: Json.quote query] ++
      ['\x7d'] = _
    rw [hq]
    simp
  · change '\x7b' :: List.intercalate [','] [Json.quote "result".toList ++ ':' :: Json.quote result] ++
      ['\x7d'] = _
    rw [hr]
    simp
  · change '\x7b' :: List.intercalate [','] [Json.quote "code".toList ++ ':' :: Json.quote code,
      Json.quote "message".toList ++ ':' :: Json.quote message] ++ ['\x7d'] = _
    rw [hc, hm]
    simp

/-- The messages of a kind go over the wire: what is written for one is read as the same one, and
so is every other text that holds it. -/
structure Carried (α : Type) [Layout α] : Prop where
  read_write : ∀ a : α, read α (write a) = .ok a
  rewrite : ∀ a : α, (read α (write a)).map write = .ok (write a)
  holds_write : ∀ a : α, Holds a (write a)
  read_of_holds : ∀ (a : α) (t : Text), Holds a t → read α t = read α (write a)

theorem carried_of_nodup (h : (Layout.names α).Nodup) : Carried α where
  read_write := read_write_of_nodup h
  rewrite a := by rw [read_write_of_nodup h]; rfl
  holds_write := holds_write
  read_of_holds a t ht := by rw [read_of_holds h ht, read_write_of_nodup h]

/-- Requests, responses and refusals go over the wire, whatever the texts in them. -/
theorem messages_carried : Carried Request ∧ Carried Response ∧ Carried Refusal :=
  ⟨carried_of_nodup (by decide), carried_of_nodup (by decide), carried_of_nodup (by decide)⟩

theorem messages_carried_relaid :
    let a : Refusal := ⟨['"'], ['A', '\n']⟩
    let t := " \x7b\"k\":[\x7b\x7d] ,\"message\":\"\\u0041\\n\",".toList ++
      "\n\"\\u0063ode\" : \"\\\"\"\x7d\t".toList
    Holds a t ∧ read Refusal t = read Refusal (write a) := by
  intro a t
  have nil : Blank [] := by simp [Blank]
  have space : Blank [' '] := by simp [Blank, isBlank]
  have ends : Blank ['\n'] ∧ Blank ['\t'] := by simp [Blank, isBlank]
  have array : WellFormed .value ['[', '\x7b', '\x7d', ']'] :=
    .full .array (.last (.item nil (.empty .object nil) nil))
  have name : Spells ("\\u0063".toList ++ "ode".toList.flatMap escape) "code".toList :=
    .unit (by decide) (spells_escape "ode".toList)
  have text : Spells "\\u0041\\n".toList a.message :=
    .unit (by decide) (.short (by decide) .done)
  have other : Member (Layout.names Refusal) _ [] :=
    .other nil (spells_escape ['k']) (by decide) nil nil array space
  have message : Member (Layout.names Refusal) _ [("message".toList, a.message)] :=
    .field nil (spells_escape _) (by decide) nil nil text nil
  have code : Member (Layout.names Refusal) _ [("code".toList, a.code)] :=
    .field ends.1 name (by decide) space space (spells_escape _) nil
  have ho : Object (Layout.names Refusal) t
      [("message".toList, a.message), ("code".toList, a.code)] :=
    .full space (.more other (.more message (.last code))) ends.2
  have ht : Holds a t := ⟨_, ho, List.Perm.swap ..⟩
  exact ⟨ht, messages_carried.2.2.read_of_holds a t ht⟩

end FractionCalculator.Message
