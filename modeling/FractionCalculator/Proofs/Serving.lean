import FractionCalculator.Proofs.Keys
import FractionCalculator.Service

/-!
# Serving a list of requests

The only thing that one request leaves for the others is one success more under
the label of computations, if it was a computation and a query could be read from
its body. The metrics show how many such requests there were so far. Every other
answer depends on its own request alone, in whatever list it stands. All this is
so whichever requests the framework gives to a route, and however much of a body it
lets through.
-/

namespace FractionCalculator.Service

open Metrics

/-- A query can be read from a body that is short enough and the bytes of a text that is a message
with this query. -/
def Reads (limit : Nat) (body : List UInt8) (query : Text) : Prop :=
  body.length ≤ limit ∧
    ∃ t : Text, t.utf8 = body ∧ Message.read Message.Request t = .ok ⟨query⟩

section Body

variable {limit : Nat} {body : List UInt8}

theorem readBody_eq_ok_iff {query : Text} :
    readBody limit body = .ok query ↔ Reads limit body query := by
  constructor
  · intro h
    simp only [readBody] at h
    split at h
    · cases h
    · next t ht =>
      split at h
      · cases h
      · next hl =>
        have hb : body.take limit = body := List.take_of_length_le (Nat.not_lt.1 hl)
        split at h
        · next message hm =>
          cases h
          exact ⟨Nat.not_lt.1 hl, t, (Text.utf8_of_ofUtf8? ht).trans hb, hm⟩
        · cases h
        · cases h
  · rintro ⟨hl, t, rfl, hm⟩
    rw [readBody, List.take_of_length_le hl, Text.ofUtf8?_utf8]
    dsimp only
    rw [if_neg (Nat.not_lt.2 hl), hm]

theorem readBody_refused (h : ¬∃ query, Reads limit body query) :
    ∃ status, readBody limit body = .error status ∧
      (status = 400 ∨ status = 422 ∨ status = 413 ∧ limit < body.length) := by
  cases hr : readBody limit body with
  | ok query => exact absurd ⟨query, readBody_eq_ok_iff.1 hr⟩ h
  | error status =>
    refine ⟨status, rfl, ?_⟩
    simp only [readBody] at hr
    split at hr
    · cases hr
      exact .inl rfl
    · split at hr
      · next hl =>
        cases hr
        exact .inr (.inr ⟨rfl, hl⟩)
      · split at hr <;> cases hr
        · exact .inr (.inl rfl)
        · exact .inl rfl

instance (limit : Nat) (body : List UInt8) : Decidable (∃ query, Reads limit body query) :=
  decidable_of_iff (readBody limit body).isOk <| by
    cases h : readBody limit body with
    | ok query => exact iff_of_true rfl ⟨query, readBody_eq_ok_iff.1 h⟩
    | error status =>
      refine iff_of_false Bool.false_ne_true ?_
      rintro ⟨query, hq⟩
      cases h.symm.trans (readBody_eq_ok_iff.2 hq)

end Body

/-- A request that is given to the route of computations, and from whose body a query can be read,
whatever comes of it. -/
def Framework.Counted (fw : Framework) (request : Request) : Prop :=
  fw.route request = .ok .compute ∧ ∃ query, Reads fw.bodyLimit request.body query

instance (fw : Framework) : DecidablePred fw.Counted :=
  fun _ => inferInstanceAs (Decidable (_ ∧ _))

variable {κ : Type} [DecidableEq κ] {fw : Framework} {c : Calculator} {r : Registry κ}
  {request : Request}

/-! ## One request -/

theorem handle_of_no_route {status : Nat} (h : fw.route request = .error status) :
    handle fw c r request = (⟨status, .none⟩, r) := by
  rw [handle, h]

theorem handle_of_route {route : Route} (h : fw.route request = .ok route) :
    handle fw c r request = (fw.deliver request (serve fw c r request.body route).1,
      (serve fw c r request.body route).2) := by
  rw [handle, h]

/-- A rejected query is measured, but not as a failure. -/
theorem compute_eq (c : Calculator) (r : Registry κ) (query : Text) :
    compute c r query =
      ((c.answer query).mapError .invalidQuery, r.observe computeLabel false) := by
  have hf : failed ((c.answer query).mapError ApiError.invalidQuery) = false := by
    cases c.answer query <;> rfl
  rw [compute, Metrics.measure, hf]

theorem handle_of_reads (h : fw.route request = .ok .compute) {query : Text}
    (hq : Reads fw.bodyLimit request.body query) :
    handle fw c r request =
      (fw.deliver request (answer ((c.answer query).mapError .invalidQuery)),
        r.observe computeLabel false) := by
  rw [handle_of_route h, serve, readBody_eq_ok_iff.2 hq]
  dsimp only
  rw [compute_eq]

theorem handle_of_refused (h : fw.route request = .ok .compute)
    (hq : ¬∃ query, Reads fw.bodyLimit request.body query) :
    ∃ status, (∀ r : Registry κ, handle fw c r request = (⟨status, .none⟩, r)) ∧
      (status = 400 ∨ status = 422 ∨ status = 413 ∧ fw.bodyLimit < request.body.length) := by
  obtain ⟨status, hb, hs⟩ := readBody_refused hq
  refine ⟨status, fun r => ?_, hs⟩
  rw [handle_of_route h, serve, hb]
  dsimp only
  unfold Framework.deliver
  split <;> rfl

theorem handle_metrics (h : fw.route request = .ok .metrics) :
    handle fw c r request =
      (⟨200, .metrics (if fw.headOnly request then [] else r.samples)⟩, r) := by
  rw [handle_of_route h]
  change (fw.deliver request ⟨200, .metrics r.samples⟩, r) = _
  unfold Framework.deliver
  split <;> rfl

/-- A request for anything but the metrics has one answer, and leaves one call more or nothing. -/
theorem handle_of_ne_metrics (fw : Framework) (c : Calculator)
    (h : fw.route request ≠ .ok .metrics) : ∃ response, ∀ r : Registry κ,
      handle fw c r request =
        (response, if fw.Counted request then r.observe computeLabel false else r) := by
  cases hr : fw.route request with
  | error status =>
    have hc : ¬fw.Counted request := fun hc => by cases hr.symm.trans hc.1
    refine ⟨⟨status, .none⟩, fun r => ?_⟩
    rw [handle_of_no_route hr, if_neg hc]
  | ok route =>
    cases route with
    | status =>
      have hc : ¬fw.Counted request := fun hc => by cases hr.symm.trans hc.1
      refine ⟨fw.deliver request Service.status, fun r => ?_⟩
      rw [handle_of_route hr, if_neg hc]
      rfl
    | metrics => exact absurd hr h
    | compute =>
      by_cases hq : ∃ query, Reads fw.bodyLimit request.body query
      · have hc : fw.Counted request := ⟨hr, hq⟩
        obtain ⟨query, hq⟩ := hq
        refine ⟨fw.deliver request (answer ((c.answer query).mapError .invalidQuery)), fun r => ?_⟩
        rw [handle_of_reads hr hq, if_pos hc]
      · have hc : ¬fw.Counted request := fun hc => hq hc.2
        obtain ⟨status, hs, -⟩ := handle_of_refused (κ := κ) (c := c) hr hq
        refine ⟨⟨status, .none⟩, fun r => ?_⟩
        rw [hs, if_neg hc]

/-- A request leaves the registry with one call more, or as it is. -/
theorem handle_snd (fw : Framework) (c : Calculator) (r : Registry κ) (request : Request) :
    (handle fw c r request).2 =
      if fw.Counted request then r.observe computeLabel false else r := by
  by_cases h : fw.route request = .ok .metrics
  · have hc : ¬fw.Counted request := fun hc => by cases h.symm.trans hc.1
    rw [handle_metrics h, if_neg hc]
  · obtain ⟨response, hr⟩ := handle_of_ne_metrics (κ := κ) fw c h
    rw [hr]

theorem status_of_reads (h : fw.route request = .ok .compute) {query : Text}
    (hq : Reads fw.bodyLimit request.body query) :
    (∃ t, c.answer query = .ok t) ∧ (handle fw c r request).1.status = 200 ∨
      (∃ cause, c.answer query = .error cause) ∧ (handle fw c r request).1.status = 400 := by
  rw [handle_of_reads h hq, Framework.status_deliver]
  cases c.answer query with
  | ok t => exact .inl ⟨⟨t, rfl⟩, rfl⟩
  | error cause => exact .inr ⟨⟨cause, rfl⟩, rfl⟩

theorem status_of_refused (h : fw.route request = .ok .compute)
    (hq : ¬∃ query, Reads fw.bodyLimit request.body query) :
    let status := (handle fw c r request).1.status
    status = 400 ∨ status = 422 ∨ status = 413 ∧ fw.bodyLimit < request.body.length := by
  obtain ⟨status, hr, hs⟩ := handle_of_refused (κ := κ) (c := c) h hq
  rwa [hr]

/-! ## A list of requests -/

theorem length_run (fw : Framework) (c : Calculator) (r : Registry κ) (requests : List Request) :
    (run fw c r requests).length = requests.length := by
  induction requests generalizing r with
  | nil => rfl
  | cons request rest ih => rw [run, List.length_cons, ih, List.length_cons]

theorem getElem?_run (fw : Framework) (c : Calculator) (r : Registry κ) (requests : List Request)
    (i : Nat) :
    (run fw c r requests)[i]? = requests[i]?.map fun request =>
      (handle fw c (after fw c r (requests.take i)) request).1 := by
  induction requests generalizing r i with
  | nil => rfl
  | cons request rest ih =>
    cases i with
    | zero => rfl
    | succ i =>
      rw [run, List.getElem?_cons_succ, List.getElem?_cons_succ, List.take_succ_cons, ih]
      rfl

theorem own_after (fw : Framework) (c : Calculator) (h : r.Own computeLabel)
    (requests : List Request) : (after fw c r requests).Own computeLabel := by
  induction requests generalizing r with
  | nil => exact h
  | cons request rest ih =>
    have hn : (handle fw c r request).2.Own computeLabel := by
      rw [handle_snd]
      split
      · exact h.observe false
      · exact h
    exact ih hn

theorem counts_after (fw : Framework) (c : Calculator) (r : Registry κ) (requests : List Request) :
    let n := requests.countP fw.Counted
    (after fw c r requests).counts computeLabel =
      ⟨(r.counts computeLabel).timed + n, (r.counts computeLabel).failure,
        (r.counts computeLabel).success + n⟩ := by
  induction requests generalizing r with
  | nil => rfl
  | cons request rest ih =>
    have hs : after fw c r (request :: rest) = after fw c (handle fw c r request).2 rest := rfl
    intro n
    rw [hs, ih, handle_snd]
    by_cases hc : fw.Counted request
    · have hn : n = rest.countP fw.Counted + 1 := List.countP_cons_of_pos (decide_eq_true hc)
      rw [if_pos hc, Registry.counts_observe, if_pos rfl, hn, Counts.mk.injEq]
      refine ⟨?_, rfl, ?_⟩
      · change (r.counts computeLabel).timed + 1 + _ = _
        omega
      · change (r.counts computeLabel).success + 1 + _ = _
        omega
    · have hn : n = rest.countP fw.Counted := List.countP_cons_of_neg (by simpa using hc)
      rw [if_neg hc, hn]

theorem value_after (fw : Framework) (c : Calculator) (h : r.Own computeLabel)
    (requests : List Request) :
    let n := requests.countP fw.Counted
    let samples := (after fw c r requests).samples
    value samples successFamily computeLabel = value r.samples successFamily computeLabel + n ∧
      value samples timedFamily computeLabel = value r.samples timedFamily computeLabel + n ∧
      value samples failureFamily computeLabel = value r.samples failureFamily computeLabel := by
  intro n samples
  have hleft {f : Family} (hf : f ∈ families) : value samples f computeLabel =
      f.count ⟨(r.counts computeLabel).timed + n, (r.counts computeLabel).failure,
        (r.counts computeLabel).success + n⟩ := by
    rw [Registry.value_eq (own_after fw c h requests) hf, counts_after fw c r requests]
  refine ⟨?_, ?_, ?_⟩
  · rw [hleft successFamily_mem, Registry.value_eq h successFamily_mem]
    rfl
  · rw [hleft timedFamily_mem, Registry.value_eq h timedFamily_mem]
    rfl
  · rw [hleft failureFamily_mem, Registry.value_eq h failureFamily_mem]
    rfl

/-- The metrics show one call more, and one success more, for each query that was sent to be
computed since the list began, and no failure more, whatever the service had to do before; nothing
else moves a count. All other answers are those to the requests alone. -/
theorem run_accounted {κ : Type} [DecidableEq κ] (fw : Framework) (file : Label → κ) (limit : Nat)
    (earlier requests : List Request) :
    let c := calculator limit
    let start := after fw c (.empty file) earlier
    let responses := run fw c start requests
    responses.length = requests.length ∧
    (∀ (i : Nat) (request : Request), requests[i]? = some request →
      fw.route request = .ok .metrics → ∃ samples,
        responses[i]? = some ⟨200, .metrics (if fw.headOnly request then [] else samples)⟩ ∧
        let n := (requests.take i).countP fw.Counted
        value samples successFamily computeLabel =
          value start.samples successFamily computeLabel + n ∧
        value samples timedFamily computeLabel =
          value start.samples timedFamily computeLabel + n ∧
        value samples failureFamily computeLabel =
          value start.samples failureFamily computeLabel) ∧
    (∀ (r : Registry κ) (request : Request), ¬fw.Counted request →
      (handle fw c r request).2 = r) ∧
    (∀ (r : Registry κ) (request : Request), fw.route request = .ok .compute →
      let status := (handle fw c r request).1.status
      (∀ query, Reads fw.bodyLimit request.body query →
        (∃ t, c.answer query = .ok t) ∧ status = 200 ∨
          (∃ cause, c.answer query = .error cause) ∧ status = 400) ∧
      ((¬∃ query, Reads fw.bodyLimit request.body query) →
        status = 400 ∨ status = 422 ∨ status = 413 ∧ fw.bodyLimit < request.body.length)) ∧
    ∀ request : Request, fw.route request ≠ .ok .metrics → ∃ response : Response,
      ∀ (r : Registry κ) (others : List Request) (i : Nat),
        others[i]? = some request → (run fw c r others)[i]? = some response := by
  intro c start responses
  have empty : (Registry.empty file).Own computeLabel := fun l hl => absurd hl List.not_mem_nil
  have own : start.Own computeLabel := own_after fw c empty earlier
  refine ⟨length_run fw c start requests, ?_, ?_, ?_, ?_⟩
  · intro i request hi hm
    refine ⟨(after fw c start (requests.take i)).samples, ?_, value_after fw c own _⟩
    rw [getElem?_run, hi, Option.map_some, handle_metrics hm]
  · intro r request hc
    rw [handle_snd, if_neg hc]
  · intro r request hr status
    exact ⟨fun query => status_of_reads hr, status_of_refused hr⟩
  · intro request hm
    obtain ⟨response, hr⟩ := handle_of_ne_metrics (κ := κ) fw c hm
    refine ⟨response, fun r others i hi => ?_⟩
    rw [getElem?_run, hi, Option.map_some, hr]

theorem run_accounted_mixed :
    let fw := Framework.rocket 32
    let post (mediaType body : String) : Request :=
      ⟨"POST".toList, "/api/v1/compute".toList, some mediaType.toList, Text.utf8 body.toList⟩
    let get (target : String) : Request := ⟨"GET".toList, target.toList, none, []⟩
    let requests :=
      [post "application/json" "\x7b\"query\":\"1 + 2\"\x7d",
        post "application/json" "\x7b\"query\":\"1 / 0\"\x7d",
        post "application/json" "\x7b\"query\":1\x7d", post "application/json" "\x7b\"query\"",
        post "application/json" "\x7b\"query\":\"1 + 2                 \"\x7d",
        post "text/plain" "\x7b\"query\":\"1 + 2\"\x7d", get "/api/v1/compute", get "/status",
        get "/metrics?now"]
    let responses := run fw (calculator 69) (.empty id) requests
    responses.map (·.status) = [200, 400, 422, 400, 413, 404, 404, 200, 200] ∧
      fw.route (get "/metrics?now") = .ok .metrics ∧
      ∃ samples, responses[8]? = some ⟨200, .metrics samples⟩ ∧
        value samples successFamily computeLabel = 2 ∧
        value samples timedFamily computeLabel = 2 ∧
        value samples failureFamily computeLabel = 0 := by
  intro fw post get requests responses
  have hm : fw.route (get "/metrics?now") = .ok .metrics := by decide +kernel
  have hh : fw.headOnly (get "/metrics?now") = false := by decide +kernel
  have hn : (requests.take 8).countP fw.Counted = 2 := by decide +kernel
  obtain ⟨-, hshown, -⟩ := run_accounted fw id 69 [] requests
  obtain ⟨samples, hr, hs, ht, hf⟩ := hshown 8 _ rfl hm
  rw [hh] at hr
  rw [hn] at hs ht
  exact ⟨by decide +kernel, hm, samples, hr, hs, ht, hf⟩

end FractionCalculator.Service
