import Signpost.Proofs.Dispatch.Calls
import Signpost.Proofs.Router.History

/-!
# What a dispatch runs

The record of a dispatch lists the calls of code that is not the router's own. Whether it tells the
truth is seen by exchanging code: two routers that agree on what is called, and otherwise only match
and bind alike, answer alike (`Router.dispatch_of_agreesOn`), and a call that is listed matters,
because another ending of it would be another outcome (`Router.exists_exchanged`).
`Router.dispatch_records` puts this beside the order of the calls.
-/

namespace Signpost

variable {request : Request}

/-! ### Handlers that bind alike -/

/-- The handlers take the same, and what they run may be different. -/
inductive Handler.BindsLike : Handler → Handler → Prop
  | positional (kinds : List ParamKind) (run run' : Args kinds → Reply) :
      BindsLike (.positional kinds run) (.positional kinds run')
  | request (run run' : Request → Reply) : BindsLike (.request run) (.request run')
  | pairs (run run' : Pairs → Reply) : BindsLike (.pairs run) (.pairs run')
  | form {read read' : Pairs → Except Form.Fault Bound}
      (h : ∀ kv, (∃ run, read kv = .ok run) ↔ ∃ run, read' kv = .ok run) :
      BindsLike (.form read) (.form read')

namespace Handler

variable {h h' : Handler} {texts : List String}

theorem BindsLike.refl : (h : Handler) → h.BindsLike h
  | .positional kinds run => .positional kinds run run
  | .request run          => .request run run
  | .pairs run            => .pairs run run
  | .form _               => .form fun _ => .rfl

theorem BindsLike.binds_iff (hlike : h.BindsLike h') :
    h.Binds request texts ↔ h'.Binds request texts := by
  cases hlike with
  | positional => exact .rfl
  | request    => exact .rfl
  | pairs      => exact .rfl
  | form h     => exact h _

/-- The handler, with the same ending of whatever it runs. -/
def replying (reply : Reply) : Handler → Handler
  | .positional kinds _ => .positional kinds fun _ => reply
  | .request _          => .request fun _ => reply
  | .pairs _            => .pairs fun _ => reply
  | .form read          => .form fun kv => (read kv).map fun _ _ => reply

theorem bindsLike_replying (reply : Reply) (h : Handler) : h.BindsLike (h.replying reply) := by
  cases h with
  | positional kinds run => exact .positional kinds run _
  | request run          => exact .request run _
  | pairs run            => exact .pairs run _
  | form read            =>
    refine .form fun kv => ?_
    simp [map_eq_ok_iff]

theorem call_replying (reply : Reply) (hbinds : h.Binds request texts) :
    (h.replying reply).call request texts = .ok reply := by
  rw [call, map_eq_ok_iff]
  cases h with
  | positional kinds run =>
    obtain ⟨args, hargs⟩ := hbinds
    exact ⟨_, mapError_eq_ok_iff.mpr (map_eq_ok_iff.mpr ⟨args, hargs, rfl⟩), rfl⟩
  | request run => exact ⟨_, rfl, rfl⟩
  | pairs run   => exact ⟨_, rfl, rfl⟩
  | form read   =>
    obtain ⟨run, hrun⟩ := hbinds
    exact ⟨_, mapError_eq_ok_iff.mpr (map_eq_ok_iff.mpr ⟨run, hrun, rfl⟩), rfl⟩

end Handler

/-! ### Routes that match alike -/

/-- The routes are for the same requests, and what they run may be different. -/
inductive Route.Alike : Route → Route → Prop
  | endpoint {e e' : Endpoint} (hmethod : e.method = e'.method) (hpattern : e.pattern = e'.pattern)
      (hhandler : e.handler.BindsLike e'.handler) : Alike (.endpoint e) (.endpoint e')
  | assets {s s' : Resolver} (hlocate : s.locate = s'.locate) : Alike (.assets s) (.assets s')

namespace Route

variable {q q' : Route} {routes routes' : List Route}

theorem Alike.refl : (q : Route) → q.Alike q
  | .endpoint e => .endpoint rfl rfl (.refl e.handler)
  | .assets _   => .assets rfl

theorem forall₂_alike_refl (routes : List Route) : List.Forall₂ Alike routes routes :=
  List.forall₂_same.mpr fun q _ => .refl q

theorem Alike.offer_eq (h : q.Alike q') : q.offer request = q'.offer request := by
  cases h with
  | endpoint hmethod hpattern hhandler => simp [Endpoint.offer, hmethod, hpattern]
  | assets hlocate                     => simp [Resolver.offer, hlocate]

theorem Alike.refusesMethod_eq (h : q.Alike q') :
    q.refusesMethod request = q'.refusesMethod request := by
  rw [refusesMethod, refusesMethod, h.offer_eq]

theorem passes_of_alike (h : List.Forall₂ Alike routes routes')
    (hpasses : ∀ q ∈ routes, q.Passes request) : ∀ q ∈ routes', q.Passes request := by
  intro q' hq'
  obtain ⟨q, hq, halike⟩ := forall₂_exists_left h hq'
  have hoffer := hpasses q hq
  rwa [Passes, halike.offer_eq] at hoffer

/-- A scan of alike routes comes to the same place. -/
theorem exists_alike_place {before after : List Route} (hr : routes = before ++ q :: after)
    (hb : ∀ q ∈ before, q.Passes request) (h : List.Forall₂ Alike routes routes') :
    ∃ before' q' after', routes' = before' ++ q' :: after' ∧ before.length = before'.length ∧
      (∀ q ∈ before', q.Passes request) ∧ q.Alike q' := by
  rw [hr] at h
  obtain ⟨before', q', after', hr', hbefore, hq, -⟩ := forall₂_append_cons_left h
  exact ⟨before', q', after', hr', hbefore.length_eq, passes_of_alike hbefore hb, hq⟩

theorem any_refusesMethod_of_alike (h : List.Forall₂ Alike routes routes') :
    routes.any (·.refusesMethod request) = routes'.any (·.refusesMethod request) := by
  induction h with
  | nil => rfl
  | cons halike _ ih => simp only [List.any_cons, ih, halike.refusesMethod_eq]

end Route

/-! ### Routers that agree -/

/-- The routers have equal code under all calls of one kind, and elsewhere they match and bind
alike. -/
structure Router.AgreesOn (r : Router) (p : Call → Prop) (r' : Router) : Prop where
  length : r.filters.length = r'.filters.length
  alike : List.Forall₂ Route.Alike r.routes r'.routes
  filter : ∀ i : Nat, p (.filter i) → r.filters[i]? = r'.filters[i]?
  route : ∀ (i : Nat) (q : Route), r.routes[i]? = some q → p (q.call i) → r'.routes[i]? = some q

theorem getElem?_append_cons_of_ne {α : Type} {before after : List α} {a a' : α} {i : Nat}
    (h : i ≠ before.length) : (before ++ a :: after)[i]? = (before ++ a' :: after)[i]? := by
  by_cases hi : i < before.length
  · simp [List.getElem?_append_left hi]
  · obtain ⟨j, hj⟩ : ∃ j, i - before.length = j + 1 := ⟨i - before.length - 1, by omega⟩
    simp [List.getElem?_append_right (Nat.not_lt.mp hi), hj]

/-- A list with the same first entries goes on from them. -/
theorem exists_append_cons {α : Type} {before after bs : List α} {a : α}
    (h : ∀ i ≤ before.length, (before ++ a :: after)[i]? = bs[i]?) :
    ∃ after', bs = before ++ a :: after' := by
  induction before generalizing bs with
  | nil =>
    have hhead := h 0 (Nat.le_refl 0)
    cases bs with
    | nil       => simp at hhead
    | cons b bs => exact ⟨bs, by simpa using hhead.symm⟩
  | cons x before ih =>
    have hhead := h 0 (Nat.zero_le _)
    cases bs with
    | nil       => simp at hhead
    | cons b bs =>
      have htail : ∀ i ≤ before.length, (before ++ a :: after)[i]? = bs[i]? := by
        intro i hi
        simpa using h (i + 1) (Nat.succ_le_succ hi)
      obtain ⟨after', rfl⟩ := ih htail
      exact ⟨after', by simpa using hhead.symm⟩

namespace Router

variable {r r' : Router} {p : Call → Prop}

/-- What is selected answers alike if the code that it calls is equal. -/
theorem answer_of_agreesOn (h : r.AgreesOn p r')
    (hp : ∀ c ∈ (answer request (r.select request)).calls, p c) :
    answer request (r.select request) = answer request (r'.select request) := by
  have halike := h.alike
  have hscanned := r.select_scanned request
  generalize r.select request = selection at hp hscanned
  cases hscanned with
  | @endpoint before after e texts hr hb he =>
    obtain ⟨before', q', after', hr', hlength, hb', hq⟩ := Route.exists_alike_place hr hb halike
    have hoffer : (Route.endpoint e).offer request = q'.offer request := hq.offer_eq
    cases hq with
    | @endpoint _ e' hmethod hpattern hhandler =>
      have he' : e'.offer request = .captured texts := by
        simpa [he, eq_comm] using hoffer
      rw [select_of_captured hr' hb' he', hlength]
      by_cases hbinds : e.handler.Binds request texts
      · rw [calls_endpoint_of_binds hbinds] at hp
        have hsame := h.route before.length (.endpoint e) (by simp [hr])
          (hp (.handler before.length) List.mem_cons_self)
        have hee : e' = e := by simpa [hr', hlength] using hsame
        rw [hee]
      · rw [answer_endpoint_of_not_binds hbinds,
          answer_endpoint_of_not_binds (hhandler.binds_iff.not.mp hbinds)]
  | @asset before after s asset hr hb hs =>
    obtain ⟨before', q', after', hr', hlength, hb', hq⟩ := Route.exists_alike_place hr hb halike
    have hsame := h.route before.length (.assets s) (by simp [hr])
      (hp (.load before.length) List.mem_cons_self)
    have hqs : q' = .assets s := by simpa [hr', hlength] using hsame
    rw [select_of_located (hqs ▸ hr') hb' hs, hlength]
  | @crashed before after s hr hb hs =>
    obtain ⟨before', q', after', hr', -, hb', hq⟩ := Route.exists_alike_place hr hb halike
    have hoffer : (Route.assets s).offer request = q'.offer request := hq.offer_eq
    cases hq with
    | @assets _ s' hlocate =>
      have hs' : s'.offer request = .crashed := by
        simpa [hs, eq_comm] using hoffer
      rw [select_of_crashed hr' hb' hs']
  | wrongMethod hpasses hm =>
    rw [select_of_passes (Route.passes_of_alike halike hpasses),
      ← Route.any_refusesMethod_of_alike halike, if_pos (List.any_eq_true.mpr hm)]
  | nothing hpasses hm =>
    rw [select_of_passes (Route.passes_of_alike halike hpasses),
      ← Route.any_refusesMethod_of_alike halike, if_neg (by simpa using hm)]

/-- Code that is not called has no part in a dispatch. -/
theorem dispatch_of_agreesOn (h : r.AgreesOn (· ∈ (r.dispatch request).calls) r') :
    r'.dispatch request = r.dispatch request := by
  rcases declined_or_stopped request r.filters with
    hdeclined | ⟨before, f, after, hr, hb, hf⟩
  · have hcalls := congrArg Dispatched.calls (dispatch_of_declined hdeclined)
    have hfilters : r'.filters = r.filters := by
      apply List.ext_getElem?
      intro i
      by_cases hi : i < r.filters.length
      · exact (h.filter i (by simp [hcalls, hi])).symm
      · rw [List.getElem?_eq_none (h.length ▸ Nat.not_lt.mp hi),
          List.getElem?_eq_none (Nat.not_lt.mp hi)]
    have hmem : ∀ c ∈ (answer request (r.select request)).calls,
        c ∈ (r.dispatch request).calls := by
      intro c hc
      rw [hcalls]
      exact List.mem_append_right _ hc
    rw [dispatch_of_declined (hfilters ▸ hdeclined), dispatch_of_declined hdeclined, hfilters,
      answer_of_agreesOn h hmem]
  · have hsame : ∀ i ≤ before.length, (before ++ f :: after)[i]? = r'.filters[i]? := by
      intro i hi
      rw [← hr]
      exact h.filter i (by simp [calls_of_stopped hr hb hf, Nat.lt_succ_of_le hi])
    obtain ⟨after', hr'⟩ := exists_append_cons hsame
    cases hending : f request with
    | crashed        => rw [dispatch_of_crashed hr' hb hending, dispatch_of_crashed hr hb hending]
    | finished found =>
      cases found with
      | none         => exact absurd hending hf
      | some payload => rw [dispatch_of_answered hr' hb hending, dispatch_of_answered hr hb hending]

/-! ### Other endings -/

theorem agreesOn_filter {before after : List Filter} {f : Filter}
    (hr : r.filters = before ++ f :: after) (f' : Filter) :
    r.AgreesOn (· ≠ .filter before.length) { r with filters := before ++ f' :: after } where
  length := by simp [hr]
  alike := Route.forall₂_alike_refl r.routes
  filter i hi := by
    have hne : i ≠ before.length := by simpa using hi
    rw [hr, getElem?_append_cons_of_ne hne]
  route _ _ hq _ := hq

theorem agreesOn_route {before after : List Route} {q q' : Route}
    (hr : r.routes = before ++ q :: after) (hq : q.Alike q') :
    r.AgreesOn (· ≠ q.call before.length) { r with routes := before ++ q' :: after } where
  length := rfl
  alike := by
    rw [hr]
    apply List.rel_append (Route.forall₂_alike_refl before)
    exact .cons hq (Route.forall₂_alike_refl after)
  filter _ _ := rfl
  route i found hfound hne := by
    by_cases hi : i = before.length
    · have hfq : found = q := by simpa [hr, hi, eq_comm] using hfound
      exact absurd (by rw [hfq, hi]) hne
    · rw [hr] at hfound
      exact (getElem?_append_cons_of_ne hi).trans hfound

/-- Whatever an outcome is, a run can end with another one. -/
theorem exists_other_ending (ε : Type) (o : Outcome) :
    ∃ ending : Attempt (Except ε Payload), (Answer.caught (Answer.ofRun ending)).outcome ≠ o := by
  by_cases ho : o = .failed
  · refine ⟨.finished (.ok (.html "")), ?_⟩
    rw [ho]
    exact Outcome.noConfusion
  · exact ⟨.crashed, fun h => ho h.symm⟩

theorem exists_exchanged_filter {i : Nat} (hi : i < r.filters.length)
    (hb : ∀ g ∈ r.filters.take i, g request = .finished none) (o : Outcome) :
    ∃ r', r.AgreesOn (· ≠ .filter i) r' ∧ (r'.dispatch request).outcome ≠ o := by
  have hr : r.filters = r.filters.take i ++ r.filters[i] :: r.filters.drop (i + 1) := by
    rw [← List.drop_eq_getElem_cons hi, List.take_append_drop]
  have hagrees (f' : Filter) := agreesOn_filter hr f'
  rw [List.length_take_of_le (Nat.le_of_lt hi)] at hagrees
  by_cases ho : o = .failed
  · refine ⟨_, hagrees fun _ => .finished (some (.html "")), ?_⟩
    rw [dispatch_of_answered rfl hb rfl, ho]
    exact Outcome.noConfusion
  · refine ⟨_, hagrees fun _ => .crashed, ?_⟩
    rw [dispatch_of_crashed rfl hb rfl]
    exact fun h => ho h.symm

theorem exists_exchanged_run {run : List Call} {c : Call}
    (h : ∀ g ∈ r.filters, g request = .finished none) (hrun : Ran request r.routes run)
    (hc : c ∈ run) (o : Outcome) :
    ∃ r', r.AgreesOn (· ≠ c) r' ∧ (r'.dispatch request).outcome ≠ o := by
  cases hrun with
  | @handler before after e texts hr hb hcaptures hmethod hbinds =>
    obtain rfl := List.mem_singleton.mp hc
    obtain ⟨reply, hreply⟩ := exists_other_ending String o
    let e' : Endpoint := { e with handler := e.handler.replying reply }
    have halike : (Route.endpoint e).Alike (.endpoint e') :=
      .endpoint rfl rfl (e.handler.bindsLike_replying reply)
    have he : e'.offer request = .captured texts :=
      Endpoint.offer_eq_captured_iff.mpr ⟨hcaptures, hmethod⟩
    refine ⟨{ r with routes := before ++ .endpoint e' :: after }, agreesOn_route hr halike, ?_⟩
    rw [dispatch_of_declined (by exact h), select_of_captured rfl hb he,
      answer_of_call_eq_ok (Handler.call_replying reply hbinds)]
    exact hreply
  | @load before after s asset hr hb hlocate hmethod =>
    obtain rfl := List.mem_singleton.mp hc
    obtain ⟨ending, hending⟩ := exists_other_ending ReadFault o
    let s' : Resolver := { s with load := fun _ => ending }
    have halike : (Route.assets s).Alike (.assets s') := .assets rfl
    have hs : s'.offer request = .finished (.located asset) :=
      Resolver.offer_eq_located_iff.mpr ⟨hlocate, hmethod⟩
    refine ⟨{ r with routes := before ++ .assets s' :: after }, agreesOn_route hr halike, ?_⟩
    rw [dispatch_of_declined (by exact h), select_of_located rfl hb hs, answer_asset]
    exact hending
  | unbound => exact absurd hc List.not_mem_nil
  | crashed => exact absurd hc List.not_mem_nil
  | passed  => exact absurd hc List.not_mem_nil

/-- Code that is called has a part in a dispatch: with another ending of it, and nothing else
exchanged, the outcome is another one. -/
theorem exists_exchanged {c : Call} (hc : c ∈ (r.dispatch request).calls) (o : Outcome) :
    ∃ r', r.AgreesOn (· ≠ c) r' ∧ (r'.dispatch request).outcome ≠ o := by
  have htraced := r.traced_dispatch request
  generalize (r.dispatch request).calls = calls at hc htraced
  cases htraced with
  | @stopped before after f hr hb hf =>
    obtain ⟨i, hi, rfl⟩ := mem_asked_iff.mp hc
    have hlt : i < r.filters.length := by
      simp [hr]
      omega
    apply exists_exchanged_filter hlt
    intro g hg
    rw [hr, List.take_append_of_le_length (Nat.le_of_lt_succ hi)] at hg
    exact hb g (List.mem_of_mem_take hg)
  | passed h hrun =>
    rcases List.mem_append.mp hc with hc | hc
    · obtain ⟨i, hi, rfl⟩ := mem_asked_iff.mp hc
      exact exists_exchanged_filter hi (fun g hg => h g (List.mem_of_mem_take hg)) o
    · exact exists_exchanged_run h hrun hc o

end Router

/-! ### The record of a dispatch -/

/-- What the calls of a dispatch are. -/
structure Router.Records (r : Router) (request : Request) (calls : List Call) : Prop where
  /-- The calls are made in the order that `Traced` allows. -/
  traced : Traced request r calls
  /-- There is no other order. -/
  only : ∀ others, Traced request r others → others = calls
  /-- Besides filters, at most one route is run, and only if all filters decline. -/
  once : ∃ n run, calls = asked n ++ run ∧ (run = [] ∨
    (∀ g ∈ r.filters, g request = .finished none) ∧
      ∃ (i : Nat) (q : Route), r.routes[i]? = some q ∧ run = [q.call i])
  /-- A handler is only called if its endpoint takes the request, and if all is bound. -/
  handler : ∀ i, .handler i ∈ calls → ∃ e texts, r.routes[i]? = some (.endpoint e) ∧
    e.pattern.captures request.path request.query = some texts ∧ request.method = e.method ∧
    e.handler.Binds request texts
  /-- The content of an asset is only loaded if it was located and asked for with `GET`. -/
  load : ∀ i, .load i ∈ calls → ∃ s asset, r.routes[i]? = some (.assets s) ∧
    s.locate request.path = .finished (some asset) ∧ request.method = .get
  /-- Code that is not listed may be exchanged. -/
  unlisted : ∀ r', r.AgreesOn (· ∈ calls) r' → r'.dispatch request = r.dispatch request
  /-- Code that is listed may not. -/
  listed : ∀ c ∈ calls, ∃ r', r.AgreesOn (· ≠ c) r' ∧
    (r'.dispatch request).outcome ≠ (r.dispatch request).outcome

namespace Router

/-- A dispatch asks the filters in the order in which they were registered up to the first that does
not decline, and behind them it runs the selected route, if there is one and its handler can bind;
its record is the list of the code that has a part in it. -/
theorem dispatch_records (r : Router) (request : Request) :
    r.Records request (r.dispatch request).calls ∧
      ∀ cs, empty.registerAll cs = .ok r → r.filters = (History.of cs).filters := by
  have htraced := r.traced_dispatch request
  refine ⟨?records, ?registered⟩
  case records => exact {
    traced := htraced
    only := fun others h => h.eq_calls
    once := htraced.once
    handler := fun i hi => htraced.of_handler_mem hi
    load := fun i hi => htraced.of_load_mem hi
    unlisted := fun r' h => dispatch_of_agreesOn h
    listed := fun c hc => exists_exchanged hc _ }
  case registered =>
    intro cs hr
    obtain ⟨-, -, -, hfilters⟩ := registerAll_laysOut hr
    exact hfilters

/-- A handler that cannot bind ends the scan without a call, and one that can is called alone. -/
theorem dispatch_records_flag :
    let switch : Handler := .positional [.bool] fun args => .payload (.json (.bool args.1))
    let any : Handler := .positional [.text] fun _ => .error "not reached"
    let cs : List Registration :=
      [.filter fun _ => .finished none, .on .get "/lamp/:name" any, .on .get "/lamp/:on" switch,
        .filter fun request => .finished (if request.path = "/" then some (.html "") else none),
        .on .post "/lamp/:on" switch]
    let request (path : String) : Request := { method := .get, path }
    ∃ r, empty.registerAll cs = .ok r ∧ r.filters.length = 2 ∧
      r.Records (request "/") [.filter 0, .filter 1] ∧
      r.Records (request "/lamp/dim") [.filter 0, .filter 1] ∧
      r.Records (request "/lamp/true") [.filter 0, .filter 1, .handler 1] := by
  intro switch any cs request
  obtain ⟨r, hr, hroot, hdim, htrue⟩ : ∃ r, empty.registerAll cs = .ok r ∧
      (r.dispatch (request "/")).calls = [.filter 0, .filter 1] ∧
      (r.dispatch (request "/lamp/dim")).calls = [.filter 0, .filter 1] ∧
      (r.dispatch (request "/lamp/true")).calls = [.filter 0, .filter 1, .handler 1] :=
    ⟨_, rfl, by decide +kernel, by decide +kernel, by decide +kernel⟩
  have hfilters := (dispatch_records r (request "/")).2 cs hr
  refine ⟨r, hr, by rw [hfilters]; rfl, ?_, ?_, ?_⟩
  · exact hroot ▸ (dispatch_records r _).1
  · exact hdim ▸ (dispatch_records r _).1
  · exact htrue ▸ (dispatch_records r _).1

end Router

end Signpost
