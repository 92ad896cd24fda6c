import FractionCalculator.Calculator
import FractionCalculator.Message
import FractionCalculator.Metrics.Exposition
import FractionCalculator.Service.Route

/-!
# The service

The service answers requests for its status, its metrics and the value of a
query. A query that is read is measured, whether it is answered or rejected; a
body that is no query, and a request without a route, is not. The answer to a
request for anything but the metrics depends on that request alone.

The framework reads a body before the handler is called. It is assumed to read as
many bytes as it is set to and no more, to want a text in them, and to refuse a
body that goes on after them.
-/

namespace FractionCalculator.Service

open Metrics (IsErr Label Registry Samples)

inductive Content where
  | none
  | json (text : Text)
  | metrics (samples : Samples)
deriving DecidableEq, Repr

structure Response where
  status : Nat
  content : Content
deriving DecidableEq, Repr

/-- The answer to a request for the head alone: of the same kind, its text left out. -/
def Response.head (response : Response) : Response :=
  match response.content with
  | .none => response
  | .json _ => ⟨response.status, .json []⟩
  | .metrics _ => ⟨response.status, .metrics []⟩

inductive ApiError where
  | internalError (message : Text)
  | invalidQuery (cause : Rejection)
deriving DecidableEq, Repr

-- A rejected query is the caller's problem and no failure.
instance : IsErr ApiError where
  isErr
    | .internalError _ => true
    | .invalidQuery _ => false

namespace ApiError

def status : ApiError → Nat
  | .internalError _ => 500
  | .invalidQuery _ => 400

def refusal : ApiError → Message.Refusal
  | .internalError _ => ⟨"internal_error".toList, "Internal Server Error".toList⟩
  | .invalidQuery cause => Message.refusal cause

def response (e : ApiError) : Response :=
  ⟨e.status, .json (Message.write e.refusal)⟩

end ApiError

def calculator (maxInputLength : Nat) : Calculator :=
  ⟨maxInputLength, "calculator::api".toList⟩

def computeLabel : Label :=
  ⟨"controller".toList, "compute".toList⟩

def status : Response :=
  ⟨200, .json "\x7b\"status\":\"ok\"\x7d".toList⟩

variable {κ : Type}

def metrics (r : Registry κ) : Except ApiError Samples :=
  r.encode.mapError .internalError

variable [DecidableEq κ]

def compute (c : Calculator) (r : Registry κ) (query : Text) :
    Except ApiError Text × Registry κ :=
  Metrics.measure r computeLabel ((c.answer query).mapError .invalidQuery)

/-- The query in a body, or the status that refuses the body. -/
def readBody (limit : Nat) (body : List UInt8) : Except Nat Text :=
  match Text.ofUtf8? (body.take limit) with
  | none => .error 400
  | some t =>
    if limit < body.length then .error 413
    else
      match Message.read Message.Request t with
      | .ok request => .ok request.query
      | .error .misfit => .error 422
      | .error _ => .error 400

def answer : Except ApiError Text → Response
  | .ok result => ⟨200, .json (Message.write (Message.Response.mk result))⟩
  | .error e => e.response

def serve (fw : Framework) (c : Calculator) (r : Registry κ) (body : List UInt8) :
    Route → Response × Registry κ
  | .status => (status, r)
  | .metrics =>
    match metrics r with
    | .ok samples => (⟨200, .metrics samples⟩, r)
    | .error e => (e.response, r)
  | .compute =>
    match readBody fw.bodyLimit body with
    | .error status => (⟨status, .none⟩, r)
    | .ok query =>
      let (result, r) := compute c r query
      (answer result, r)

def Framework.deliver (fw : Framework) (request : Request) (response : Response) : Response :=
  if fw.headOnly request then response.head else response

def handle (fw : Framework) (c : Calculator) (r : Registry κ) (request : Request) :
    Response × Registry κ :=
  match fw.route request with
  | .error status => (⟨status, .none⟩, r)
  | .ok route =>
    let (response, r) := serve fw c r request.body route
    (fw.deliver request response, r)

def run (fw : Framework) (c : Calculator) (r : Registry κ) : List Request → List Response
  | [] => []
  | request :: rest => (handle fw c r request).1 :: run fw c (handle fw c r request).2 rest

def after (fw : Framework) (c : Calculator) (r : Registry κ) (requests : List Request) :
    Registry κ :=
  requests.foldl (fun r request => (handle fw c r request).2) r

@[simp] theorem Response.status_head (response : Response) :
    response.head.status = response.status := by
  unfold head
  split <;> rfl

@[simp] theorem Framework.status_deliver (fw : Framework) (request : Request)
    (response : Response) : (fw.deliver request response).status = response.status := by
  unfold deliver
  split
  · exact response.status_head
  · rfl

end FractionCalculator.Service
