import FractionCalculator.Proofs.Exactness
import FractionCalculator.Proofs.Messages
import FractionCalculator.Proofs.Refusals
import FractionCalculator.Proofs.Serving

/-!
# Computing over the service

A client that writes a query as a message and posts it gets back, as a message,
what the calculator says about that very query: its answer, or the code and the
message of its rejection. The texts of both may hold any characters, those that
messages escape among them.
-/

namespace FractionCalculator

theorem Message.read_write_request (a : Message.Request) :
    Message.read Message.Request (Message.write a) = .ok a :=
  Message.read_write_of_nodup (by decide) a

theorem Message.read_write_response (a : Message.Response) :
    Message.read Message.Response (Message.write a) = .ok a :=
  Message.read_write_of_nodup (by decide) a

namespace Service

open Metrics (Registry)

/-- A text that reads as the media type of JSON, with parameters or without. -/
def NamesJson (mediaType : Text) : Prop :=
  ∃ m, MediaType.parse? mediaType = some m ∧ m.isJson = true

def posting (mediaType query : Text) : Request :=
  ⟨"POST".toList, "/api/v1/compute".toList, some mediaType,
    Text.utf8 (Message.write (Message.Request.mk query))⟩

variable {mediaType : Text} {request : Request} {m : MediaType}

theorem not_isForm_of_isJson (h : m.isJson = true) : m.isForm = false := by
  have hne : "json".toList ≠ "x-www-form-urlencoded".toList := by decide
  simp only [MediaType.isJson, MediaType.isOf, Bool.and_eq_true, decide_eq_true_eq] at h
  simp only [MediaType.isForm, MediaType.isOf, h.2, decide_eq_false hne, Bool.and_false]

theorem Request.sends_eq (h : request.contentType = some mediaType)
    (hp : MediaType.parse? mediaType = some m) (kind : MediaType → Bool) :
    request.sends kind = kind m := by
  rw [sends, h, Option.bind_some, hp]

theorem Request.method?_of_post (h : Method.parse? request.method = some .post)
    (hf : request.sends MediaType.isForm = false) : request.method? = some .post := by
  rw [method?, h]
  dsimp only
  rw [hf]
  rfl

theorem segments_compute : Target.segments Route.compute.declaration.path =
    ["api", "v1", "compute"].map (Text.utf8 ·.toList) := by
  decide +kernel

theorem Framework.route_eq_compute_iff {fw : Framework} :
    fw.route request = .ok .compute ↔ fw.turnsAway request = none ∧
      fw.meets request Route.status.declaration = false ∧
      fw.meets request Route.metrics.declaration = false ∧
      fw.meets request Route.compute.declaration = true := by
  cases ha : fw.turnsAway request with
  | some status => simp [route, ha]
  | none =>
    cases hs : fw.meets request Route.status.declaration with
    | true => simp [route, ha, hs, Route.all]
    | false =>
      cases hm : fw.meets request Route.metrics.declaration with
      | true => simp [route, ha, hs, hm, Route.all]
      | false =>
        cases hc : fw.meets request Route.compute.declaration <;>
          simp [route, ha, hs, hm, hc, Route.all]

theorem Framework.meets_rocket_iff {bodyLimit : Nat} {d : Declaration} :
    (rocket bodyLimit).meets request d = true ↔
      (∃ method, request.method? = some method ∧
        (method = d.method ∨ method = .head ∧ d.method = .get)) ∧
      d.format.all request.sends = true ∧
      ∃ path, Target.path? request.target = some path ∧
        Target.segments path = Target.segments d.path := by
  simp [rocket, Option.any_eq_true, and_assoc]

/-- Requests to compute are posted to the path of computations and send JSON. -/
theorem Framework.route_rocket_eq_compute_iff {bodyLimit : Nat} :
    (rocket bodyLimit).route request = .ok .compute ↔
      request.method? = some .post ∧ request.sends MediaType.isJson = true ∧
        ∃ path, Target.path? request.target = some path ∧
          Target.segments path = ["api", "v1", "compute"].map (Text.utf8 ·.toList) := by
  -- A posted request meets no declaration of a GET.
  have get {d : Declaration} (hd : d.method = .get) (hm : request.method? = some .post) :
      (rocket bodyLimit).meets request d = false := by
    rw [Bool.eq_false_iff, ne_eq, meets_rocket_iff, hd, hm]
    rintro ⟨⟨method, hp, ho⟩, -⟩
    cases hp
    simp at ho
  rw [route_eq_compute_iff, meets_rocket_iff, ← segments_compute]
  constructor
  · rintro ⟨-, -, -, ⟨method, hm, ho⟩, hj, hp⟩
    obtain rfl : method = .post := ho.resolve_right fun h => absurd h.2 (by decide)
    exact ⟨hm, hj, hp⟩
  · rintro ⟨hm, hj, path, hp, hs⟩
    refine ⟨?_, get rfl hm, get rfl hm, ⟨.post, hm, .inl rfl⟩, hj, path, hp, hs⟩
    change (if (Target.path? request.target).isSome then none else some 400) = none
    rw [hp]
    rfl

theorem method?_posting (h : NamesJson mediaType) (query : Text) :
    (posting mediaType query).method? = some .post := by
  obtain ⟨m, hp, hj⟩ := h
  refine Request.method?_of_post ?_ ?_
  · change Method.parse? "POST".toList = some .post
    decide
  · rw [Request.sends_eq rfl hp, not_isForm_of_isJson hj]

theorem route_posting (h : NamesJson mediaType) (bodyLimit : Nat) (query : Text) :
    (Framework.rocket bodyLimit).route (posting mediaType query) = .ok .compute := by
  obtain ⟨m, hp, hj⟩ := id h
  have ht : Target.path? "/api/v1/compute".toList = some "/api/v1/compute".toList := by
    decide +kernel
  refine Framework.route_rocket_eq_compute_iff.2 ⟨method?_posting h query, ?_, _, ht, ?_⟩
  · rw [Request.sends_eq rfl hp, hj]
  · exact segments_compute

theorem handle_posting {κ : Type} [DecidableEq κ] {bodyLimit : Nat} (h : NamesJson mediaType)
    (c : Calculator) (r : Registry κ) (query : Text)
    (hb : (posting mediaType query).body.length ≤ bodyLimit) :
    (handle (.rocket bodyLimit) c r (posting mediaType query)).1 =
      answer ((c.answer query).mapError .invalidQuery) := by
  have hh : (Framework.rocket bodyLimit).headOnly (posting mediaType query) = false := by
    change decide ((posting mediaType query).method? = some .head) = false
    rw [method?_posting h]
    rfl
  have hq : Reads (Framework.rocket bodyLimit).bodyLimit (posting mediaType query).body query :=
    ⟨hb, _, rfl, Message.read_write_request ⟨query⟩⟩
  rw [handle_of_reads (route_posting h bodyLimit query) hq, Framework.deliver, hh]
  rfl

/-! ## What the client reads -/

variable {result : Except Rejection Text}

theorem answer_reads_iff {t : Text} :
    (∃ body, answer (result.mapError .invalidQuery) = ⟨200, .json body⟩ ∧
      Message.read Message.Response body = .ok ⟨t⟩) ↔ result = .ok t := by
  constructor
  · rintro ⟨body, hb, hread⟩
    cases result with
    | error cause => cases hb
    | ok t' =>
      cases hb
      rw [Message.read_write_response] at hread
      cases hread
      rfl
  · rintro rfl
    exact ⟨_, rfl, Message.read_write_response ⟨t⟩⟩

theorem refusal_reads_iff {cause : Rejection} :
    (∃ body, answer (result.mapError .invalidQuery) = ⟨400, .json body⟩ ∧
      Message.read Message.Refusal body = .ok ⟨cause.code, cause.message⟩) ↔
      result = .error cause := by
  constructor
  · rintro ⟨body, hb, hread⟩
    cases result with
    | ok t => cases hb
    | error cause' =>
      cases hb
      change Message.read Message.Refusal (Message.write (Message.refusal cause')) = _ at hread
      rw [Message.read_write_refusal, Message.refusal, Except.ok.injEq,
        Message.Refusal.mk.injEq] at hread
      rw [Rejection.eq_of_code_of_message hread.1 hread.2]
  · rintro rfl
    exact ⟨_, rfl, Message.read_write_refusal (Message.refusal cause)⟩

theorem status_answer (result : Except Rejection Text) :
    (answer (result.mapError .invalidQuery)).status = 200 ∨
      (answer (result.mapError .invalidQuery)).status = 400 := by
  cases result with
  | ok t => exact .inl rfl
  | error cause => exact .inr rfl

/-- What is posted, in a body that is not too long, is answered as the calculator answers it: the
client reads an answer exactly if there is one, and the code and message of a cause exactly if the
query is rejected for it. -/
theorem compute_agrees {κ : Type} [DecidableEq κ] (h : NamesJson mediaType)
    (limit bodyLimit : Nat) (r : Registry κ) (query : Text)
    (hb : (posting mediaType query).body.length ≤ bodyLimit) :
    let response := (handle (.rocket bodyLimit) (calculator limit) r (posting mediaType query)).1
    let result := Calculator.answer { maxInputLength := limit } query
    (∀ t, result = .ok t ↔ ∃ body, response = ⟨200, .json body⟩ ∧
      Message.read Message.Response body = .ok ⟨t⟩) ∧
    (∀ cause, result = .error cause ↔ ∃ body, response = ⟨400, .json body⟩ ∧
      Message.read Message.Refusal body = .ok ⟨cause.code, cause.message⟩) ∧
    (response.status = 200 ∨ response.status = 400) := by
  intro response result
  have hr : response = answer (result.mapError .invalidQuery) := by
    change (handle (.rocket bodyLimit) (calculator limit) r (posting mediaType query)).1 = _
    rw [handle_posting h _ _ _ hb, Calculator.answer_eq]
    change _ = answer ((Calculator.answer _ query).mapError .invalidQuery)
    rw [Calculator.answer_eq]
    rfl
  rw [hr]
  exact ⟨fun t => answer_reads_iff.symm, fun cause => refusal_reads_iff.symm, status_answer result⟩

theorem compute_agrees_quoted :
    let mediaType := "application/json; charset=utf-8".toList
    let operand := ['"', '\\', '\x01', '\n', '2']
    let query := "1 + ".toList ++ operand
    let cause := Rejection.malformedOperand .whole operand
    NamesJson mediaType ∧ (posting mediaType query).body.length ≤ Framework.defaultBodyLimit ∧
      ∃ body, (handle (.rocket Framework.defaultBodyLimit) (calculator 69) (.empty id)
          (posting mediaType query)).1 = ⟨400, .json body⟩ ∧
        Message.read Message.Refusal body = .ok ⟨cause.code, cause.message⟩ := by
  intro mediaType operand query cause
  have hm : NamesJson mediaType :=
    ⟨⟨"application".toList, "json".toList, [("charset".toList, "utf-8".toList)]⟩,
      by decide +kernel, by decide +kernel⟩
  have hb : (posting mediaType query).body.length ≤ Framework.defaultBodyLimit := by
    decide +kernel
  have hc : Calculator.answer { maxInputLength := 69 } query = .error cause := by decide +kernel
  exact ⟨hm, hb, ((compute_agrees hm 69 _ (.empty id) query hb).2.1 cause).1 hc⟩

end Service
end FractionCalculator
