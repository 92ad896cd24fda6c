import FractionCalculator.Calculator
import Mathlib.Order.WellFounded

/-!
# Stages of a query

A query passes six stages: it is split into tokens, its left operand, its right
operand and its operator are read, the operation is computed and its value is
written. The first stage that fails gives the rejection, and the records that are
left are the first few of the six that an answered query leaves. The target of
the records decides nothing else about them.
-/

namespace FractionCalculator

namespace Log.Traced

def after {α : Type} (record : Record) (x : Traced α) : Traced α :=
  ⟨record :: x.records, x.outcome⟩

theorem note_bind {α : Type} (record : Record) (f : Unit → Traced α) :
    (note record >>= f) = (f ()).after record :=
  rfl

end Log.Traced

namespace Calculator

open Log

inductive Stage where
  | tokens
  | left
  | right
  | operator
  | value
  | text
deriving DecidableEq, Repr

namespace Stage

def rank : Stage → Nat
  | .tokens => 0
  | .left => 1
  | .right => 2
  | .operator => 3
  | .value => 4
  | .text => 5

def records : Stage → Nat
  | .tokens => 1
  | .left => 2
  | .right => 3
  | .operator => 4
  | .value => 5
  | .text => 5

def Result : Stage → Type
  | .tokens => Tokens
  | .left => Fraction
  | .right => Fraction
  | .operator => Operator
  | .value => Fraction
  | .text => Text

end Stage

/-- What the stages of one query give, each from what the stages before it gave. After a stage that
fails it is of no account. -/
structure Course where
  tokens : Tokens
  query : Query
  value : Fraction
  text : Text

namespace Course

def result (x : Course) : (s : Stage) → s.Result
  | .tokens => x.tokens
  | .left => x.query.left
  | .right => x.query.right
  | .operator => x.query.operator
  | .value => x.value
  | .text => x.text

def outcome (x : Course) (limit : Nat) (input : Text) : (s : Stage) → Except Rejection s.Result
  | .tokens => Query.tokenize input limit
  | .left => Operand.parse x.tokens.left
  | .right => Operand.parse x.tokens.right
  | .operator => Operator.parse x.tokens.operator
  | .value => x.query.left.evaluate x.query.operator x.query.right
  | .text => x.value.text

def log (x : Course) (input : Text) : List (Level × Text) :=
  [(.trace, "Tokenizing query ".toList ++ input.quoted),
    (.trace, "Parsing left operand ".toList ++ x.tokens.left),
    (.trace, "Parsing right operand ".toList ++ x.tokens.right),
    (.trace, "Parsing operator ".toList ++ x.tokens.operator),
    (.trace, "Evaluating ".toList ++ x.query.left.display ++ ' ' :: x.query.operator.symbol ::
      ' ' :: x.query.right.display),
    (.debug, input.trim ++ " = ".toList ++ x.text)]

def Reaches (x : Course) (limit : Nat) (input : Text) (stage : Stage) : Prop :=
  ∀ s : Stage, s.rank < stage.rank → x.outcome limit input s = .ok (x.result s)

/-- How a query ends, and how many records it leaves: the first stage that fails rejects it, and
where none fails it is answered. -/
inductive Ends (x : Course) (limit : Nat) (input : Text) : Nat → Except Rejection Text → Prop where
  | rejected {stage : Stage} {cause : Rejection} (hs : x.Reaches limit input stage)
    (hf : x.outcome limit input stage = .error cause) :
    Ends x limit input stage.records (.error cause)
  | answered (hs : ∀ s, x.outcome limit input s = .ok (x.result s)) :
    Ends x limit input 6 (.ok x.text)

end Course

def record (target : Text) (entry : Level × Text) : Record :=
  ⟨entry.1, target, .engine, entry.2⟩

namespace Course

variable {x : Course} {limit : Nat} {input : Text} {stage : Stage}

open Traced in
theorem execute_of_rejected {cause : Rejection} (target : Text) (hs : x.Reaches limit input stage)
    (hf : x.outcome limit input stage = .error cause) :
    execute ⟨limit, target⟩ input =
      ⟨((x.log input).take stage.records).map (record target), .error cause⟩ := by
  have tokens (h : 0 < stage.rank) : Query.tokenize input limit = .ok x.tokens := hs .tokens h
  have left (h : 1 < stage.rank) : Operand.parse x.tokens.left = .ok x.query.left := hs .left h
  have right (h : 2 < stage.rank) : Operand.parse x.tokens.right = .ok x.query.right := hs .right h
  have operator (h : 3 < stage.rank) : Operator.parse x.tokens.operator = .ok x.query.operator :=
    hs .operator h
  have value (h : 4 < stage.rank) :
      x.query.left.evaluate x.query.operator x.query.right = .ok x.value := hs .value h
  simp only [execute, parse, evaluate, note, bind_assoc, pure_bind]
  simp only [note_bind]
  -- Each stage now stands after its own record, and its failure drops what follows.
  cases stage with
  | tokens =>
    have hf : Query.tokenize input limit = .error cause := hf
    rw [lift_bind_of_error hf]
    rfl
  | left =>
    have hf : Operand.parse x.tokens.left = .error cause := hf
    rw [lift_bind_of_ok (tokens (by decide)), lift_bind_of_error hf]
    rfl
  | right =>
    have hf : Operand.parse x.tokens.right = .error cause := hf
    rw [lift_bind_of_ok (tokens (by decide)), lift_bind_of_ok (left (by decide)),
      lift_bind_of_error hf]
    rfl
  | operator =>
    have hf : Operator.parse x.tokens.operator = .error cause := hf
    rw [lift_bind_of_ok (tokens (by decide)), lift_bind_of_ok (left (by decide)),
      lift_bind_of_ok (right (by decide)), lift_bind_of_error hf]
    rfl
  | value =>
    have hf : x.query.left.evaluate x.query.operator x.query.right = .error cause := hf
    rw [lift_bind_of_ok (tokens (by decide)), lift_bind_of_ok (left (by decide)),
      lift_bind_of_ok (right (by decide)), lift_bind_of_ok (operator (by decide)),
      lift_bind_of_error hf]
    rfl
  | text =>
    have hf : x.value.text = .error cause := hf
    rw [lift_bind_of_ok (tokens (by decide)), lift_bind_of_ok (left (by decide)),
      lift_bind_of_ok (right (by decide)), lift_bind_of_ok (operator (by decide)),
      lift_bind_of_ok (value (by decide)), lift_bind_of_error hf]
    rfl

open Traced in
theorem execute_of_answered (target : Text)
    (hs : ∀ s, x.outcome limit input s = .ok (x.result s)) :
    execute ⟨limit, target⟩ input = ⟨(x.log input).map (record target), .ok x.text⟩ := by
  have tokens : Query.tokenize input limit = .ok x.tokens := hs .tokens
  have left : Operand.parse x.tokens.left = .ok x.query.left := hs .left
  have right : Operand.parse x.tokens.right = .ok x.query.right := hs .right
  have operator : Operator.parse x.tokens.operator = .ok x.query.operator := hs .operator
  have value : x.query.left.evaluate x.query.operator x.query.right = .ok x.value := hs .value
  have text : x.value.text = .ok x.text := hs .text
  simp only [execute, parse, evaluate, note, bind_assoc, pure_bind]
  simp only [note_bind, lift_bind_of_ok tokens, lift_bind_of_ok left, lift_bind_of_ok right,
    lift_bind_of_ok operator, lift_bind_of_ok value, lift_bind_of_ok text]
  rfl

theorem execute_of_ends {n : Nat} {result : Except Rejection Text}
    (h : x.Ends limit input n result) (target : Text) :
    execute ⟨limit, target⟩ input = ⟨((x.log input).take n).map (record target), result⟩ := by
  cases h with
  | rejected hs hf => exact execute_of_rejected target hs hf
  | answered hs => exact execute_of_answered target hs

def ofQuery (limit : Nat) (input : Text) : Course :=
  let tokens := (Query.tokenize input limit).toOption.getD ⟨[], [], []⟩
  let left := (Operand.parse tokens.left).toOption.getD (.whole 0)
  let right := (Operand.parse tokens.right).toOption.getD (.whole 0)
  let operator := (Operator.parse tokens.operator).toOption.getD .add
  let value := (left.evaluate operator right).toOption.getD (.whole 0)
  ⟨tokens, ⟨left, operator, right⟩, value, value.text.toOption.getD []⟩

theorem error_or_ok {α : Type} (r : Except Rejection α) (a : α) :
    (∃ cause, r = .error cause) ∨ r = .ok (r.toOption.getD a) := by
  cases r with
  | error cause => exact Or.inl ⟨cause, rfl⟩
  | ok b => exact Or.inr rfl

theorem outcome_ofQuery (limit : Nat) (input : Text) (s : Stage) :
    (∃ cause, (ofQuery limit input).outcome limit input s = .error cause) ∨
      (ofQuery limit input).outcome limit input s = .ok ((ofQuery limit input).result s) := by
  cases s with
  | tokens => exact error_or_ok (α := Tokens) _ _
  | left => exact error_or_ok (α := Fraction) _ _
  | right => exact error_or_ok (α := Fraction) _ _
  | operator => exact error_or_ok (α := Operator) _ _
  | value => exact error_or_ok (α := Fraction) _ _
  | text => exact error_or_ok (α := Text) _ _

theorem exists_ends (limit : Nat) (input : Text) :
    ∃ (x : Course) (n : Nat) (result : Except Rejection Text), x.Ends limit input n result := by
  let x := ofQuery limit input
  by_cases hall : ∀ s, x.outcome limit input s = .ok (x.result s)
  · exact ⟨x, _, _, .answered hall⟩
  · obtain ⟨s, hs⟩ := not_forall.1 hall
    -- Of the stages that fail, the query ends at the one that comes first.
    obtain ⟨stage, hf, hmin⟩ := WellFounded.has_min (InvImage.wf Stage.rank Nat.lt_wfRel.wf)
      {s | x.outcome limit input s ≠ .ok (x.result s)} ⟨s, hs⟩
    obtain ⟨cause, hc⟩ := (outcome_ofQuery limit input stage).resolve_right hf
    refine ⟨x, _, _, .rejected (fun s hlt => ?_) hc⟩
    by_contra hn
    exact hmin s hn hlt

end Course

theorem level_of_mem_records {c : Calculator} {input : Text} {r : Record}
    (h : r ∈ (c.execute input).records) : r.level = .trace ∨ r.level = .debug := by
  obtain ⟨x, n, result, hx⟩ := Course.exists_ends c.maxInputLength input
  rw [Course.execute_of_ends hx c.logTarget] at h
  obtain ⟨entry, he, rfl⟩ := List.mem_map.1 h
  have hm := List.mem_of_mem_take he
  simp only [Course.log, List.mem_cons, List.not_mem_nil, or_false] at hm
  rcases hm with rfl | rfl | rfl | rfl | rfl | rfl <;> simp [record]

end Calculator
end FractionCalculator
