import Signpost.Dispatch.Basic
import Signpost.Proofs.Traversal

/-!
# Scanning filters and routes

A request goes past the filters that decline it, and then past the routes that decline it or serve
another method. `selectFrom_append` says what a stretch of passed routes adds to a scan, and
`Router.select_scanned` reads a selection back: where the scan stopped, and that it had passed all
routes before.
-/

namespace Signpost

variable {request : Request}

/-! ### Offers -/

/-- What a route of either sort makes of a request. -/
def Route.offer (request : Request) : Route → Attempt Offer
  | .endpoint e => .finished (e.offer request)
  | .assets r   => r.offer request

@[simp] theorem Route.offer_endpoint (e : Endpoint) :
    (Route.endpoint e).offer request = .finished (e.offer request) := rfl

@[simp] theorem Route.offer_assets (r : Resolver) :
    (Route.assets r).offer request = r.offer request := rfl

theorem Endpoint.offer_cases (e : Endpoint) (request : Request) :
    (e.pattern.captures request.path request.query = none ∧ e.offer request = .declined) ∨
      ∃ texts, e.pattern.captures request.path request.query = some texts ∧
        (request.method = e.method ∧ e.offer request = .captured texts ∨
          request.method ≠ e.method ∧ e.offer request = .wrongMethod) := by
  unfold Endpoint.offer
  cases hcaptures : e.pattern.captures request.path request.query with
  | none => exact .inl ⟨rfl, rfl⟩
  | some texts =>
    refine .inr ⟨texts, rfl, ?_⟩
    by_cases hm : request.method = e.method
    · exact .inl ⟨hm, if_pos hm⟩
    · exact .inr ⟨hm, if_neg hm⟩

theorem Endpoint.offer_eq_captured_iff {e : Endpoint} {texts : List String} :
    e.offer request = .captured texts ↔
      e.pattern.captures request.path request.query = some texts ∧ request.method = e.method := by
  rcases e.offer_cases request with
    ⟨hnone, ho⟩ | ⟨found, hsome, ⟨hm, ho⟩ | ⟨hm, ho⟩⟩
  · simp [hnone, ho]
  · simp [hsome, hm, ho]
  · simp [hm, ho]

theorem Endpoint.offer_eq_wrongMethod_iff {e : Endpoint} :
    e.offer request = .wrongMethod ↔
      (e.pattern.captures request.path request.query).isSome ∧ request.method ≠ e.method := by
  rcases e.offer_cases request with
    ⟨hnone, ho⟩ | ⟨found, hsome, ⟨hm, ho⟩ | ⟨hm, ho⟩⟩
  · simp [hnone, ho]
  · simp [hm, ho]
  · simp [hsome, hm, ho]

theorem Resolver.offer_cases (r : Resolver) (request : Request) :
    (r.locate request.path = .crashed ∧ r.offer request = .crashed) ∨
      (r.locate request.path = .finished none ∧ r.offer request = .finished .declined) ∨
      ∃ asset, r.locate request.path = .finished (some asset) ∧
        (request.method = .get ∧ r.offer request = .finished (.located asset) ∨
          request.method ≠ .get ∧ r.offer request = .finished .wrongMethod) := by
  unfold Resolver.offer
  cases hlocate : r.locate request.path with
  | crashed => exact .inl ⟨rfl, rfl⟩
  | finished found =>
    cases found with
    | none => exact .inr (.inl ⟨rfl, rfl⟩)
    | some asset =>
      refine .inr (.inr ⟨asset, rfl, ?_⟩)
      by_cases hm : request.method = .get
      · exact .inl ⟨hm, by simp [hm]⟩
      · exact .inr ⟨hm, by simp [hm]⟩

theorem Resolver.offer_eq_located_iff {r : Resolver} {asset : AssetPath} :
    r.offer request = .finished (.located asset) ↔
      r.locate request.path = .finished (some asset) ∧ request.method = .get := by
  rcases r.offer_cases request with
    ⟨hl, ho⟩ | ⟨hl, ho⟩ | ⟨found, hl, ⟨hm, ho⟩ | ⟨hm, ho⟩⟩
  · simp [hl, ho]
  · simp [hl, ho]
  · simp [hl, hm, ho]
  · simp [hm, ho]

theorem Resolver.offer_eq_wrongMethod_iff {r : Resolver} :
    r.offer request = .finished .wrongMethod ↔
      (∃ asset, r.locate request.path = .finished (some asset)) ∧ request.method ≠ .get := by
  rcases r.offer_cases request with
    ⟨hl, ho⟩ | ⟨hl, ho⟩ | ⟨found, hl, ⟨hm, ho⟩ | ⟨hm, ho⟩⟩
  · simp [hl, ho]
  · simp [hl, ho]
  · simp [hm, ho]
  · simp [hl, hm, ho]

theorem Resolver.offer_eq_crashed_iff {r : Resolver} :
    r.offer request = .crashed ↔ r.locate request.path = .crashed := by
  rcases r.offer_cases request with
    ⟨hl, ho⟩ | ⟨hl, ho⟩ | ⟨found, hl, ⟨hm, ho⟩ | ⟨hm, ho⟩⟩ <;> simp [hl, ho]

/-! ### Passing routes -/

/-- The scan goes on to the next route. -/
def Route.Passes (request : Request) (route : Route) : Prop :=
  route.offer request = .finished .declined ∨ route.offer request = .finished .wrongMethod

/-- Whether the path is one of the route and the method is not. -/
def Route.refusesMethod (request : Request) (route : Route) : Bool :=
  match route.offer request with
  | .finished .wrongMethod => true
  | _                      => false

theorem Route.refusesMethod_iff {route : Route} :
    route.refusesMethod request = true ↔ route.offer request = .finished .wrongMethod := by
  unfold Route.refusesMethod
  split <;> simp_all

theorem Route.passes_endpoint_iff {e : Endpoint} :
    (Route.endpoint e).Passes request ↔ ∀ texts, e.offer request ≠ .captured texts := by
  rw [Route.Passes, Route.offer_endpoint, Attempt.finished.injEq, Attempt.finished.injEq]
  rcases e.offer_cases request with ⟨-, ho⟩ | ⟨found, -, ⟨-, ho⟩ | ⟨-, ho⟩⟩ <;> simp [ho]

theorem Route.passes_assets_iff {r : Resolver} :
    (Route.assets r).Passes request ↔
      r.locate request.path ≠ .crashed ∧
        (request.method = .get → ∀ asset, r.locate request.path ≠ .finished (some asset)) := by
  rw [Route.Passes, Route.offer_assets]
  rcases r.offer_cases request with
    ⟨hl, ho⟩ | ⟨hl, ho⟩ | ⟨found, hl, ⟨hm, ho⟩ | ⟨hm, ho⟩⟩
  · simp [hl, ho]
  · simp [hl, ho]
  · simp [hl, hm, ho]
  · simp [hl, hm, ho]

/-- Passed routes only count on, and remember whether one of them refused the method. -/
theorem selectFrom_append {before : List Route} (h : ∀ q ∈ before, q.Passes request)
    (after : List Route) (index : Nat) (meant : Bool) :
    selectFrom request index meant (before ++ after) =
      selectFrom request (index + before.length)
        (meant || before.any (·.refusesMethod request)) after := by
  induction before generalizing index meant with
  | nil => simp
  | cons q before ih =>
    have hq := h q List.mem_cons_self
    have hbefore : ∀ p ∈ before, p.Passes request := fun p hp => h p (List.mem_cons_of_mem q hp)
    -- Whether `q` declined or refused the method, the scan goes on with only the flag changed.
    have hstep : selectFrom request index meant (q :: (before ++ after)) =
        selectFrom request (index + 1) (meant || q.refusesMethod request) (before ++ after) := by
      cases q with
      | endpoint e =>
        simp only [Route.Passes, Route.offer_endpoint, Attempt.finished.injEq] at hq
        rcases hq with hq | hq <;> simp [selectFrom, Route.refusesMethod, hq]
      | assets r =>
        simp only [Route.Passes, Route.offer_assets] at hq
        rcases hq with hq | hq <;> simp [selectFrom, Route.refusesMethod, hq]
    rw [List.cons_append, hstep, ih hbefore]
    simp [Nat.add_assoc, Nat.add_comm 1, Bool.or_assoc]

/-! ### Where a scan stops -/

namespace Router

variable {r : Router} {before after : List Route}

theorem select_of_captured {e : Endpoint} {texts : List String}
    (hr : r.routes = before ++ .endpoint e :: after) (hb : ∀ q ∈ before, q.Passes request)
    (he : e.offer request = .captured texts) :
    r.select request = .endpoint before.length e texts := by
  rw [select, hr, selectFrom_append hb]
  simp [selectFrom, he]

theorem select_of_located {s : Resolver} {asset : AssetPath}
    (hr : r.routes = before ++ .assets s :: after) (hb : ∀ q ∈ before, q.Passes request)
    (hs : s.offer request = .finished (.located asset)) :
    r.select request = .asset before.length s asset := by
  rw [select, hr, selectFrom_append hb]
  simp [selectFrom, hs]

theorem select_of_crashed {s : Resolver}
    (hr : r.routes = before ++ .assets s :: after) (hb : ∀ q ∈ before, q.Passes request)
    (hs : s.offer request = .crashed) : r.select request = .crashed := by
  rw [select, hr, selectFrom_append hb]
  simp [selectFrom, hs]

theorem select_of_passes (h : ∀ q ∈ r.routes, q.Passes request) :
    r.select request =
      if r.routes.any (·.refusesMethod request) then .wrongMethod else .nothing := by
  have := selectFrom_append h [] 0 false
  rw [List.append_nil] at this
  rw [select, this]
  simp [selectFrom]

end Router

/-- What a scan of `routes` can end with, and what it has found out then. -/
inductive Scanned (request : Request) (routes : List Route) : Selection → Prop
  | endpoint {before after : List Route} {e : Endpoint} {texts : List String}
      (hr : routes = before ++ .endpoint e :: after) (hb : ∀ q ∈ before, q.Passes request)
      (he : e.offer request = .captured texts) :
      Scanned request routes (.endpoint before.length e texts)
  | asset {before after : List Route} {s : Resolver} {asset : AssetPath}
      (hr : routes = before ++ .assets s :: after) (hb : ∀ q ∈ before, q.Passes request)
      (hs : s.offer request = .finished (.located asset)) :
      Scanned request routes (.asset before.length s asset)
  | crashed {before after : List Route} {s : Resolver}
      (hr : routes = before ++ .assets s :: after) (hb : ∀ q ∈ before, q.Passes request)
      (hs : s.offer request = .crashed) : Scanned request routes .crashed
  | wrongMethod (h : ∀ q ∈ routes, q.Passes request)
      (hm : ∃ q ∈ routes, q.refusesMethod request = true) : Scanned request routes .wrongMethod
  | nothing (h : ∀ q ∈ routes, q.Passes request)
      (hm : ∀ q ∈ routes, q.refusesMethod request = false) : Scanned request routes .nothing

/-- A route that is not passed stops the scan. -/
theorem Route.stops_of_not_passes {q : Route} (h : ¬ q.Passes request) :
    (∃ e texts, q = .endpoint e ∧ e.offer request = .captured texts) ∨
      (∃ s asset, q = .assets s ∧ s.offer request = .finished (.located asset)) ∨
      (∃ s, q = .assets s ∧ s.offer request = .crashed) := by
  cases q with
  | endpoint e =>
    rw [Route.passes_endpoint_iff] at h
    obtain ⟨texts, he⟩ := Classical.not_forall.mp h
    exact .inl ⟨e, texts, rfl, Classical.not_not.mp he⟩
  | assets s =>
    rw [Route.passes_assets_iff] at h
    by_cases hc : s.locate request.path = .crashed
    · exact .inr (.inr ⟨s, rfl, Resolver.offer_eq_crashed_iff.mpr hc⟩)
    · have hlocates := Classical.not_imp.mp fun hn => h ⟨hc, hn⟩
      obtain ⟨hm, hsome⟩ := hlocates
      obtain ⟨asset, hs⟩ := Classical.not_forall.mp hsome
      have hoffer := Resolver.offer_eq_located_iff.mpr ⟨Classical.not_not.mp hs, hm⟩
      exact .inr (.inl ⟨s, asset, rfl, hoffer⟩)

/-- Either the scan passes all routes, or there is a first that stops it. -/
theorem Route.passed_or_stopped (request : Request) (routes : List Route) :
    (∀ q ∈ routes, q.Passes request) ∨
      ∃ before q after, routes = before ++ q :: after ∧
        (∀ p ∈ before, p.Passes request) ∧ ¬ q.Passes request := by
  rcases exists_first (¬ Route.Passes request ·) routes with h | ⟨before, q, after, hr, hq, hb⟩
  · exact .inl fun q hmem => Classical.not_not.mp (h q hmem)
  · exact .inr ⟨before, q, after, hr, fun p hmem => Classical.not_not.mp (hb p hmem), hq⟩

theorem Router.select_scanned (r : Router) (request : Request) :
    Scanned request r.routes (r.select request) := by
  rcases Route.passed_or_stopped request r.routes with h | ⟨before, q, after, hr, hb, hq⟩
  · rw [select_of_passes h]
    split
    · exact .wrongMethod h (by simp_all)
    · exact .nothing h (by simp_all)
  · rcases Route.stops_of_not_passes hq with
      ⟨e, texts, rfl, he⟩ | ⟨s, asset, rfl, hs⟩ | ⟨s, rfl, hs⟩
    · exact select_of_captured hr hb he ▸ .endpoint hr hb he
    · exact select_of_located hr hb hs ▸ .asset hr hb hs
    · exact select_of_crashed hr hb hs ▸ .crashed hr hb hs

/-! ### Filters -/

/-- The calls of the first `n` filters in their order. -/
def asked (n : Nat) : List Call :=
  (List.range n).map .filter

theorem asked_succ (n : Nat) : asked (n + 1) = asked n ++ [.filter n] := by
  simp [asked, List.range_succ]

theorem mem_asked_iff {n : Nat} {c : Call} : c ∈ asked n ↔ ∃ i < n, c = .filter i := by
  simp [asked, eq_comm]

@[simp] theorem filter_mem_asked {n i : Nat} : .filter i ∈ asked n ↔ i < n := by
  simp [asked]

namespace Router

variable {r : Router} {before after : List Filter} {f : Filter}

/-- Either all filters decline, or there is a first that does not. -/
theorem declined_or_stopped (request : Request) (fs : List Filter) :
    (∀ g ∈ fs, g request = .finished none) ∨
      ∃ before f after, fs = before ++ f :: after ∧
        (∀ g ∈ before, g request = .finished none) ∧ f request ≠ .finished none := by
  rcases exists_first (fun f : Filter => f request ≠ .finished none) fs with
    h | ⟨before, f, after, hfs, hf, hb⟩
  · exact .inl fun g hg => Classical.not_not.mp (h g hg)
  · exact .inr ⟨before, f, after, hfs, fun g hg => Classical.not_not.mp (hb g hg), hf⟩

theorem askFrom_cons_of_declined (hf : f request = .finished none) (index : Nat)
    (fs : List Filter) :
    askFrom request index (f :: fs) =
      ⟨(askFrom request (index + 1) fs).value,
        .filter index :: (askFrom request (index + 1) fs).calls⟩ := by
  ext1 <;> simp [askFrom, hf]

/-- A filter that does not decline is the last one that is called. -/
theorem askFrom_cons_of_stopped (hf : f request ≠ .finished none) (index : Nat)
    (fs : List Filter) : askFrom request index (f :: fs) = ⟨f request, [.filter index]⟩ := by
  cases hending : f request with
  | crashed => ext1 <;> simp [askFrom, hending]
  | finished found =>
    cases found with
    | none         => exact absurd hending hf
    | some payload => ext1 <;> simp [askFrom, hending]

/-- Filters that decline are called and count on. -/
theorem askFrom_append (hb : ∀ g ∈ before, g request = .finished none) (after : List Filter)
    (index : Nat) :
    askFrom request index (before ++ after) =
      ⟨(askFrom request (index + before.length) after).value,
        (List.range' index before.length).map .filter ++
          (askFrom request (index + before.length) after).calls⟩ := by
  induction before generalizing index with
  | nil => rfl
  | cons g before ih =>
    have hg : g request = .finished none := hb g List.mem_cons_self
    have hrest := ih (fun g hg => hb g (List.mem_cons_of_mem _ hg)) (index + 1)
    rw [List.cons_append, askFrom_cons_of_declined hg, hrest]
    simp [List.range'_succ, Nat.add_assoc, Nat.add_comm 1]

theorem askFrom_of_stopped (hb : ∀ g ∈ before, g request = .finished none)
    (hf : f request ≠ .finished none) :
    askFrom request 0 (before ++ f :: after) = ⟨f request, asked (before.length + 1)⟩ := by
  rw [askFrom_append hb, askFrom_cons_of_stopped hf, asked_succ, asked, List.range_eq_range']
  simp

theorem dispatch_of_answered (hr : r.filters = before ++ f :: after)
    (hb : ∀ g ∈ before, g request = .finished none) {payload : Payload}
    (hf : f request = .finished (some payload)) :
    r.dispatch request =
      { Answer.caught (Answer.ofPayload .filtered payload) with
        calls := asked (before.length + 1) } := by
  simp [dispatch, route, hr, askFrom_of_stopped hb, hf]

theorem dispatch_of_crashed (hr : r.filters = before ++ f :: after)
    (hb : ∀ g ∈ before, g request = .finished none) (hf : f request = .crashed) :
    r.dispatch request = { Answer.failed with calls := asked (before.length + 1) } := by
  simp [dispatch, route, hr, askFrom_of_stopped hb, hf, Answer.caught]

theorem calls_of_stopped (hr : r.filters = before ++ f :: after)
    (hb : ∀ g ∈ before, g request = .finished none) (hf : f request ≠ .finished none) :
    (r.dispatch request).calls = asked (before.length + 1) := by
  cases hending : f request with
  | crashed => rw [dispatch_of_crashed hr hb hending]
  | finished found =>
    cases found with
    | none         => exact absurd hending hf
    | some payload => rw [dispatch_of_answered hr hb hending]

theorem dispatch_of_declined (h : ∀ g ∈ r.filters, g request = .finished none) :
    r.dispatch request =
      { Answer.caught (answer request (r.select request)).value with
        calls := asked r.filters.length ++ (answer request (r.select request)).calls } := by
  have hask := askFrom_append h [] 0
  rw [List.append_nil, ← List.range_eq_range'] at hask
  simp [dispatch, route, hask, askFrom, asked]

/-- What is called besides filters is called for the selected route. -/
theorem mem_calls_dispatch {c : Call} (hc : c ∈ (r.dispatch request).calls) :
    (∃ i, c = .filter i) ∨ c ∈ (answer request (r.select request)).calls := by
  rcases declined_or_stopped request r.filters with h | ⟨before, f, after, hr, hb, hf⟩
  · rw [dispatch_of_declined h] at hc
    rcases List.mem_append.mp hc with hc | hc
    · obtain ⟨i, -, rfl⟩ := mem_asked_iff.mp hc
      exact .inl ⟨i, rfl⟩
    · exact .inr hc
  · rw [calls_of_stopped hr hb hf] at hc
    obtain ⟨i, -, rfl⟩ := mem_asked_iff.mp hc
    exact .inl ⟨i, rfl⟩

/-- If all filters decline, the routes answer. -/
theorem response_of_declined (h : ∀ f ∈ r.filters, f request = .finished none) :
    (r.dispatch request).response =
      (Answer.caught (answer request (r.select request)).value).response := by
  rw [dispatch_of_declined h]

end Router

/-! ### Answers -/

/-- The response at the end of a run. -/
def Response.ofRun {ε : Type} : Attempt (Except ε Payload) → Response
  | .finished (.ok payload) => .ofPayload payload
  | .finished (.error _)    => .serverError
  | .crashed                => .serverError

namespace Answer

theorem caught_ofPayload_response (outcome : Outcome) (payload : Payload) :
    (caught (ofPayload outcome payload)).response = .ofPayload payload := by
  unfold ofPayload Response.ofPayload
  cases Response.negotiate payload <;> rfl

theorem caught_ofRun_response {ε : Type} (run : Attempt (Except ε Payload)) :
    (caught (ofRun run)).response = .ofRun run := by
  cases run with
  | crashed => rfl
  | finished result =>
    cases result with
    | ok payload  => exact caught_ofPayload_response .handled payload
    | error fault => rfl

end Answer

namespace Router

theorem answer_of_call_eq_ok {index : Nat} {e : Endpoint} {texts : List String} {reply : Reply}
    (h : e.handler.call request texts = .ok reply) :
    answer request (.endpoint index e texts) = ⟨Answer.ofRun reply, [.handler index]⟩ := by
  obtain ⟨run, hrun, rfl⟩ := map_eq_ok_iff.mp h
  rw [answer, hrun]
  rfl

theorem answer_of_call_eq_error {index : Nat} {e : Endpoint} {texts : List String}
    {fault : Handler.Fault} (h : e.handler.call request texts = .error fault) :
    answer request (.endpoint index e texts) = ⟨.finished ⟨.badRequest, .badRequest⟩, []⟩ := by
  rw [answer, map_eq_error_iff.mp h]
  rfl

theorem answer_asset (index : Nat) (s : Resolver) (asset : AssetPath) :
    answer request (.asset index s asset) = ⟨Answer.ofRun (s.load asset), [.load index]⟩ := rfl

/-- Only what was selected is called. -/
theorem mem_calls_answer {selection : Selection} {c : Call}
    (hc : c ∈ (answer request selection).calls) :
    (∃ index e texts, selection = .endpoint index e texts ∧ c = .handler index) ∨
      ∃ index s asset, selection = .asset index s asset ∧ c = .load index := by
  cases selection with
  | endpoint index e texts =>
    cases hcall : e.handler.call request texts with
    | ok reply =>
      rw [answer_of_call_eq_ok hcall] at hc
      exact .inl ⟨index, e, texts, rfl, List.mem_singleton.mp hc⟩
    | error fault =>
      rw [answer_of_call_eq_error hcall] at hc
      exact absurd hc List.not_mem_nil
  | asset index s asset =>
    rw [answer_asset] at hc
    exact .inr ⟨index, s, asset, rfl, List.mem_singleton.mp hc⟩
  | wrongMethod => exact absurd hc List.not_mem_nil
  | nothing     => exact absurd hc List.not_mem_nil
  | crashed     => exact absurd hc List.not_mem_nil

end Router

end Signpost
