import Signpost.Proofs.Dispatch.Scan

/-!
# The calls of a dispatch

`Traced` says in which order a dispatch calls code that is not its own: the filters in turn until
one of them does not decline, and only behind the last of them, if all decline, what `Ran` allows.
That is one call at most, for the first route that takes the request, and none if its handler cannot
bind what it is offered. `Router.traced_dispatch` and `Traced.eq_calls` say that the record of a
dispatch is this and nothing else.
-/

namespace Signpost

variable {request : Request}

/-! ### Binding -/

/-- Whether the handler can read all that it takes. -/
def Handler.Binds (request : Request) (texts : List String) : Handler → Prop
  | .positional kinds _ => ∃ args, bindParams kinds texts = .ok args
  | .request _          => True
  | .pairs _            => True
  | .form read          => ∃ run, read (.ofUrlencoded request.form.toUrlencoded) = .ok run

/-- A handler runs exactly if it can bind. -/
theorem Handler.binds_iff {texts : List String} {h : Handler} :
    h.Binds request texts ↔ ∃ reply, h.call request texts = .ok reply := by
  simp only [call, map_eq_ok_iff]
  cases h with
  | positional kinds run => simp [Binds, bindTo, mapError_eq_ok_iff, map_eq_ok_iff]
  | request run          => simp [Binds, bindTo]
  | pairs run            => simp [Binds, bindTo]
  | form read            => simp [Binds, bindTo, mapError_eq_ok_iff]

/-! ### Calls for routes -/

/-- The call that runs the route at a place. -/
def Route.call (index : Nat) : Route → Call
  | .endpoint _ => .handler index
  | .assets _   => .load index

/-- What may be called for routes that are offered a request. -/
inductive Ran (request : Request) (routes : List Route) : List Call → Prop
  /-- The handler of the first endpoint that takes the request, if it can bind. -/
  | handler {before after : List Route} {e : Endpoint} {texts : List String}
      (hr : routes = before ++ .endpoint e :: after) (hb : ∀ q ∈ before, q.Passes request)
      (hcaptures : e.pattern.captures request.path request.query = some texts)
      (hmethod : request.method = e.method) (hbinds : e.handler.Binds request texts) :
      Ran request routes [.handler before.length]
  | unbound {before after : List Route} {e : Endpoint} {texts : List String}
      (hr : routes = before ++ .endpoint e :: after) (hb : ∀ q ∈ before, q.Passes request)
      (hcaptures : e.pattern.captures request.path request.query = some texts)
      (hmethod : request.method = e.method) (hbinds : ¬ e.handler.Binds request texts) :
      Ran request routes []
  /-- The content of an asset, if static content is the first that takes the request. -/
  | load {before after : List Route} {s : Resolver} {asset : AssetPath}
      (hr : routes = before ++ .assets s :: after) (hb : ∀ q ∈ before, q.Passes request)
      (hlocate : s.locate request.path = .finished (some asset))
      (hmethod : request.method = .get) : Ran request routes [.load before.length]
  | crashed {before after : List Route} {s : Resolver}
      (hr : routes = before ++ .assets s :: after) (hb : ∀ q ∈ before, q.Passes request)
      (hlocate : s.locate request.path = .crashed) : Ran request routes []
  | passed (h : ∀ q ∈ routes, q.Passes request) : Ran request routes []

namespace Router

variable {r : Router}

theorem calls_endpoint_of_binds {e : Endpoint} {texts : List String}
    (h : e.handler.Binds request texts) (index : Nat) :
    (answer request (.endpoint index e texts)).calls = [.handler index] := by
  obtain ⟨reply, hreply⟩ := Handler.binds_iff.mp h
  rw [answer_of_call_eq_ok hreply]

theorem answer_endpoint_of_not_binds {e : Endpoint} {texts : List String}
    (h : ¬ e.handler.Binds request texts) (index : Nat) :
    answer request (.endpoint index e texts) = ⟨.finished ⟨.badRequest, .badRequest⟩, []⟩ := by
  cases hcall : e.handler.call request texts with
  | ok reply    => exact absurd (Handler.binds_iff.mpr ⟨reply, hcall⟩) h
  | error fault => exact answer_of_call_eq_error hcall

end Router

/-- What was selected says what is called. -/
theorem Scanned.ran {routes : List Route} {selection : Selection}
    (h : Scanned request routes selection) :
    Ran request routes (Router.answer request selection).calls := by
  cases h with
  | @endpoint before after e texts hr hb he =>
    obtain ⟨hcaptures, hmethod⟩ := Endpoint.offer_eq_captured_iff.mp he
    by_cases hbinds : e.handler.Binds request texts
    · rw [Router.calls_endpoint_of_binds hbinds]
      exact .handler hr hb hcaptures hmethod hbinds
    · rw [Router.answer_endpoint_of_not_binds hbinds]
      exact .unbound hr hb hcaptures hmethod hbinds
  | asset hr hb hs =>
    obtain ⟨hlocate, hmethod⟩ := Resolver.offer_eq_located_iff.mp hs
    exact .load hr hb hlocate hmethod
  | crashed hr hb hs => exact .crashed hr hb (Resolver.offer_eq_crashed_iff.mp hs)
  | wrongMethod h _  => exact .passed h
  | nothing h _      => exact .passed h

theorem Ran.eq_calls {r : Router} {run : List Call} (h : Ran request r.routes run) :
    run = (Router.answer request (r.select request)).calls := by
  cases h with
  | handler hr hb hcaptures hmethod hbinds =>
    have he := Endpoint.offer_eq_captured_iff.mpr ⟨hcaptures, hmethod⟩
    rw [Router.select_of_captured hr hb he, Router.calls_endpoint_of_binds hbinds]
  | unbound hr hb hcaptures hmethod hbinds =>
    have he := Endpoint.offer_eq_captured_iff.mpr ⟨hcaptures, hmethod⟩
    rw [Router.select_of_captured hr hb he, Router.answer_endpoint_of_not_binds hbinds]
  | load hr hb hlocate hmethod =>
    have hs := Resolver.offer_eq_located_iff.mpr ⟨hlocate, hmethod⟩
    rw [Router.select_of_located hr hb hs, Router.answer_asset]
  | crashed hr hb hlocate =>
    rw [Router.select_of_crashed hr hb (Resolver.offer_eq_crashed_iff.mpr hlocate)]
    rfl
  | passed h =>
    rw [Router.select_of_passes h]
    split <;> rfl

/-- Only a route that takes the request is called, and its handler only if it can bind. -/
theorem Ran.cases_calls {routes : List Route} {run : List Call} (h : Ran request routes run) :
    run = [] ∨
      (∃ i e texts, run = [.handler i] ∧ routes[i]? = some (.endpoint e) ∧
        e.pattern.captures request.path request.query = some texts ∧
        request.method = e.method ∧ e.handler.Binds request texts) ∨
      (∃ i s asset, run = [.load i] ∧ routes[i]? = some (.assets s) ∧
        s.locate request.path = .finished (some asset) ∧ request.method = .get) := by
  cases h with
  | handler hr _ hcaptures hmethod hbinds =>
    exact .inr (.inl ⟨_, _, _, rfl, by simp [hr], hcaptures, hmethod, hbinds⟩)
  | load hr _ hlocate hmethod => exact .inr (.inr ⟨_, _, _, rfl, by simp [hr], hlocate, hmethod⟩)
  | unbound => exact .inl rfl
  | crashed => exact .inl rfl
  | passed  => exact .inl rfl

/-! ### The record of a dispatch -/

/-- What a dispatch of the request may call, in its order. -/
inductive Traced (request : Request) (r : Router) : List Call → Prop
  /-- The filters up to the first that does not decline. -/
  | stopped {before after : List Filter} {f : Filter} (hr : r.filters = before ++ f :: after)
      (hb : ∀ g ∈ before, g request = .finished none) (hf : f request ≠ .finished none) :
      Traced request r (asked (before.length + 1))
  /-- All filters, and then what is called for the routes. -/
  | passed {run : List Call} (h : ∀ g ∈ r.filters, g request = .finished none)
      (hrun : Ran request r.routes run) : Traced request r (asked r.filters.length ++ run)

theorem Router.traced_dispatch (r : Router) (request : Request) :
    Traced request r (r.dispatch request).calls := by
  rcases declined_or_stopped request r.filters with h | ⟨before, f, after, hr, hb, hf⟩
  · rw [dispatch_of_declined h]
    exact .passed h (r.select_scanned request).ran
  · rw [calls_of_stopped hr hb hf]
    exact .stopped hr hb hf

theorem Traced.eq_calls {r : Router} {calls : List Call} (h : Traced request r calls) :
    calls = (r.dispatch request).calls := by
  cases h with
  | stopped hr hb hf => rw [Router.calls_of_stopped hr hb hf]
  | passed h hrun    => rw [Router.dispatch_of_declined h, hrun.eq_calls]

namespace Traced

variable {r : Router} {calls : List Call} {i : Nat}

/-- Besides filters, at most one route is run, and only if all filters decline. -/
theorem once (h : Traced request r calls) :
    ∃ n run, calls = asked n ++ run ∧ (run = [] ∨
      (∀ g ∈ r.filters, g request = .finished none) ∧
        ∃ (i : Nat) (q : Route), r.routes[i]? = some q ∧ run = [q.call i]) := by
  cases h with
  | stopped => exact ⟨_, [], (List.append_nil _).symm, .inl rfl⟩
  | @passed run h hrun =>
    refine ⟨r.filters.length, run, rfl, ?_⟩
    rcases hrun.cases_calls with hnone | ⟨i, e, texts, hrun, he, -⟩ | ⟨i, s, asset, hrun, hs, -⟩
    · exact .inl hnone
    · exact .inr ⟨h, i, .endpoint e, he, hrun⟩
    · exact .inr ⟨h, i, .assets s, hs, hrun⟩

/-- What is called is a filter, or is called for the routes. -/
theorem mem_cases (h : Traced request r calls) {c : Call} (hc : c ∈ calls) :
    (∃ i, c = .filter i) ∨ ∃ run, Ran request r.routes run ∧ c ∈ run := by
  cases h with
  | stopped =>
    obtain ⟨i, -, hi⟩ := mem_asked_iff.mp hc
    exact .inl ⟨i, hi⟩
  | @passed run h hrun =>
    rcases List.mem_append.mp hc with hc | hc
    · obtain ⟨i, -, hi⟩ := mem_asked_iff.mp hc
      exact .inl ⟨i, hi⟩
    · exact .inr ⟨run, hrun, hc⟩

theorem of_handler_mem (h : Traced request r calls) (hi : .handler i ∈ calls) :
    ∃ e texts, r.routes[i]? = some (.endpoint e) ∧
      e.pattern.captures request.path request.query = some texts ∧
      request.method = e.method ∧ e.handler.Binds request texts := by
  obtain ⟨j, hj⟩ | ⟨run, hrun, hi⟩ := h.mem_cases hi
  · cases hj
  rcases hrun.cases_calls with rfl | ⟨j, e, texts, rfl, htakes⟩ | ⟨j, s, asset, rfl, -⟩
  · exact absurd hi List.not_mem_nil
  · cases List.mem_singleton.mp hi
    exact ⟨e, texts, htakes⟩
  · cases List.mem_singleton.mp hi

theorem of_load_mem (h : Traced request r calls) (hi : .load i ∈ calls) :
    ∃ s asset, r.routes[i]? = some (.assets s) ∧
      s.locate request.path = .finished (some asset) ∧ request.method = .get := by
  obtain ⟨j, hj⟩ | ⟨run, hrun, hi⟩ := h.mem_cases hi
  · cases hj
  rcases hrun.cases_calls with rfl | ⟨j, e, texts, rfl, -⟩ | ⟨j, s, asset, rfl, htakes⟩
  · exact absurd hi List.not_mem_nil
  · cases List.mem_singleton.mp hi
  · cases List.mem_singleton.mp hi
    exact ⟨s, asset, htakes⟩

end Traced

end Signpost
