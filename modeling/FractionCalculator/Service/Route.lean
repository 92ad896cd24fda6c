import FractionCalculator.Service.MediaType
import FractionCalculator.Service.Method
import FractionCalculator.Service.Target

/-!
# Routes

The service declares three routes, each by a method, a path and, for a
computation, a media type. Which requests meet a declaration, which are turned away
before any route is looked for, and how much of a body is read is up to the web
framework, rocket, which is not part of the program. A `Framework` is any way to
decide this.

`Framework.rocket` is the way that rocket is assumed to decide: a request with a
well-formed target is routed by its method, the segments of its path, and its
media type where one is declared. The query of the target does not count, and a
request for a head goes where one for the whole goes. The number of bytes read of a
body is a setting.
-/

namespace FractionCalculator.Service

structure Request where
  method : Text
  target : Text
  contentType : Option Text
  body : List UInt8
deriving DecidableEq, Repr

namespace Request

def sends (r : Request) (kind : MediaType → Bool) : Bool :=
  match r.contentType.bind MediaType.parse? with
  | some m => kind m
  | none => false

def method? (r : Request) : Option Method :=
  match Method.parse? r.method with
  | some .post =>
    if r.sends MediaType.isForm then (Method.ofForm? r.body).or (some .post) else some .post
  | method => method

end Request

structure Declaration where
  method : Method
  path : Text
  format : Option (MediaType → Bool)

inductive Route where
  | status
  | metrics
  | compute
deriving DecidableEq, Repr

namespace Route

def declaration : Route → Declaration
  | .status => ⟨.get, "/status".toList, none⟩
  | .metrics => ⟨.get, "/metrics".toList, none⟩
  | .compute => ⟨.post, "/api/v1/compute".toList, some MediaType.isJson⟩

def all : List Route :=
  [.status, .metrics, .compute]

end Route

/-- What is decided about a request outside of the handlers: the status that turns it away, whether
it meets a declaration, whether it asks for the head of an answer alone, and the number of bytes up
to which a body is read. -/
structure Framework where
  turnsAway : Request → Option Nat
  meets : Request → Declaration → Bool
  headOnly : Request → Bool
  bodyLimit : Nat

namespace Framework

def route (fw : Framework) (request : Request) : Except Nat Route :=
  match fw.turnsAway request with
  | some status => .error status
  | none =>
    match Route.all.find? (fw.meets request ·.declaration) with
    | some route => .ok route
    | none => .error 404

def rocket (bodyLimit : Nat) : Framework where
  turnsAway request := if (Target.path? request.target).isSome then none else some 400
  meets request d :=
    (request.method?.any fun method => method = d.method || method = .head && d.method = .get) &&
      d.format.all request.sends &&
      (Target.path? request.target).any fun path =>
        Target.segments path = Target.segments d.path
  headOnly request := request.method? = some .head
  bodyLimit := bodyLimit

def defaultBodyLimit : Nat := 0x100000

end Framework
end FractionCalculator.Service
