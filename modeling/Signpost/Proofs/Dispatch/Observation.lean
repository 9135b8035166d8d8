import Signpost.Proofs.Dispatch.Endings
import Signpost.Proofs.Dispatch.Snapshots

/-!
# Observation

What an observer is told of a dispatch says what happened: `Event.Reports` derives each outcome from
what the filters and the routes of the router do with the request. The status would not do for that,
because a handler chooses it freely. `Dispatcher.run_observed` says that the observer is told so of
every dispatch that completes, once and in the order of the completions.

Every ending of a dispatch has a cause, and every cause leads to its ending: `Router.Cause` says the
same as `Router.Ends`, but without regard to how a route is searched for.
-/

namespace Signpost

variable {request : Request}

/-! ### What routes do with a request -/

namespace Route

/-- The method that the route serves. -/
def method : Route → Method
  | endpoint e => e.method
  | assets _   => .get

/-- The path and the query are some of the route. -/
def Matches (request : Request) : Route → Prop
  | endpoint e => ∃ texts, e.pattern.captures request.path request.query = some texts
  | assets s   => ∃ asset, s.locate request.path = .finished (some asset)

/-- The request is one of the route, and its method is that of the route. -/
def Takes (request : Request) (q : Route) : Prop :=
  q.Matches request ∧ request.method = q.method

/-- The route crashes when it is asked for the path. -/
def CrashesOn (request : Request) : Route → Prop
  | endpoint _ => False
  | assets s   => s.locate request.path = .crashed

/-- A route that takes the request ends in this way when it is run. -/
inductive Ends (request : Request) : Route → Ending → Prop
  | endpoint {index : Nat} {e : Endpoint} {texts : List String} {ending : Ending}
      (hcaptures : e.pattern.captures request.path request.query = some texts)
      (h : (Selection.endpoint index e texts).Ends request ending) :
      Ends request (.endpoint e) ending
  | assets {index : Nat} {s : Resolver} {asset : AssetPath} {ending : Ending}
      (hlocate : s.locate request.path = .finished (some asset))
      (h : (Selection.asset index s asset).Ends request ending) : Ends request (.assets s) ending

theorem passes_iff {q : Route} :
    q.Passes request ↔ ¬ q.CrashesOn request ∧ ¬ q.Takes request := by
  cases q with
  | endpoint e =>
    simp only [passes_endpoint_iff, ne_eq, Endpoint.offer_eq_captured_iff, CrashesOn, Takes,
      Matches, method, not_false_eq_true, true_and, not_and, forall_exists_index]
  | assets s =>
    simp only [passes_assets_iff, ne_eq, CrashesOn, Takes, Matches, method, not_and,
      forall_exists_index]
    exact and_congr_right fun _ => ⟨fun h asset hlocate hm => h hm asset hlocate,
      fun h hm asset hlocate => h asset hlocate hm⟩

theorem refusesMethod_iff_matches {q : Route} :
    q.refusesMethod request = true ↔ q.Matches request ∧ request.method ≠ q.method := by
  rw [refusesMethod_iff]
  cases q with
  | endpoint e =>
    rw [offer_endpoint, Attempt.finished.injEq, Endpoint.offer_eq_wrongMethod_iff,
      Option.isSome_iff_exists]
    rfl
  | assets s => exact Resolver.offer_eq_wrongMethod_iff

theorem refusesMethod_iff_of_passes {q : Route} (h : q.Passes request) :
    q.refusesMethod request = true ↔ q.Matches request := by
  obtain ⟨-, htakes⟩ := passes_iff.mp h
  rw [refusesMethod_iff_matches]
  exact ⟨And.left, fun hmatches => ⟨hmatches, fun hmethod => htakes ⟨hmatches, hmethod⟩⟩⟩

/-- How a route ends does not depend on its place. -/
theorem Ends.of_endpoint {e : Endpoint} {texts : List String} {ending : Ending} {index : Nat}
    (h : (Selection.endpoint index e texts).Ends request ending) (place : Nat) :
    (Selection.endpoint place e texts).Ends request ending := by
  cases h <;> constructor <;> assumption

theorem Ends.of_asset {s : Resolver} {asset : AssetPath} {ending : Ending} {index : Nat}
    (h : (Selection.asset index s asset).Ends request ending) (place : Nat) :
    (Selection.asset place s asset).Ends request ending := by
  cases h <;> constructor <;> assumption

end Route

namespace Router

variable {r : Router} {ending : Ending}

/-! ### How far a dispatch comes -/

/-- All filters decline the request. -/
def Declines (r : Router) (request : Request) : Prop :=
  ∀ f ∈ r.filters, f request = .finished none

/-- The filter is asked: those before it decline. -/
def Asks (r : Router) (request : Request) (f : Filter) : Prop :=
  ∃ before after, r.filters = before ++ f :: after ∧ ∀ g ∈ before, g request = .finished none

/-- The route is offered the request: all filters decline, and no route before it takes the request
or crashes. -/
def Offers (r : Router) (request : Request) (q : Route) : Prop :=
  r.Declines request ∧ ∃ before after, r.routes = before ++ q :: after ∧
    ∀ p ∈ before, ¬ p.CrashesOn request ∧ ¬ p.Takes request

/-- The route is selected. -/
def Selects (r : Router) (request : Request) (q : Route) : Prop :=
  r.Offers request q ∧ q.Takes request

/-- The selected route ends in this way. -/
def RunsTo (r : Router) (request : Request) (ending : Ending) : Prop :=
  ∃ q, r.Selects request q ∧ q.Ends request ending

/-- A filter answers, and the stream of its payload, if it has one, does not crash. -/
def Answers (r : Router) (request : Request) (payload : Payload) : Prop :=
  ∃ f, r.Asks request f ∧ f request = .finished (some payload) ∧ ¬ payload.Crashes

/-- Something crashes: a filter that is asked or the stream that it answers with, static content
that is offered the request, or the selected route, its stream included. -/
inductive Crashes (r : Router) (request : Request) : Prop
  | filter {f : Filter} (h : r.Asks request f) (hf : f request = .crashed)
  | filterStream {f : Filter} {payload : Payload} (h : r.Asks request f)
      (hf : f request = .finished (some payload)) (hread : payload.Crashes)
  | locate {q : Route} (h : r.Offers request q) (hq : q.CrashesOn request)
  | run {culprit : Culprit} (h : r.RunsTo request (.crashed culprit))

/-- The selected route ends with an error. -/
inductive Errs (r : Router) (request : Request) : Prop
  | handler {message : String} (h : r.RunsTo request (.handlerError message))
  | load {fault : ReadFault} (h : r.RunsTo request (.loadError fault))

/-- Nothing crashes, no filter answers, and no route is selected. -/
structure IsUnanswered (r : Router) (request : Request) : Prop where
  crashes : ¬ r.Crashes request
  answers : ¬ ∃ payload, r.Answers request payload
  selects : ¬ ∃ q, r.Selects request q

theorem mem_routes_of_offers {q : Route} (h : r.Offers request q) : q ∈ r.routes := by
  obtain ⟨-, before, after, hr, -⟩ := h
  simp [hr]

theorem offers_of_passes {q : Route} {before after : List Route} (hd : r.Declines request)
    (hr : r.routes = before ++ q :: after) (hb : ∀ p ∈ before, p.Passes request) :
    r.Offers request q :=
  ⟨hd, before, after, hr, fun p hp => Route.passes_iff.mp (hb p hp)⟩

/-- If there is no answer, every filter and every route was gone past. -/
theorem isUnanswered_iff :
    r.IsUnanswered request ↔ r.Declines request ∧ ∀ q ∈ r.routes, q.Passes request := by
  constructor
  · intro h
    have hd : r.Declines request := by
      rcases declined_or_stopped request r.filters with hd | ⟨before, f, after, hr, hb, hf⟩
      · exact hd
      · cases hfound : f request with
        | crashed => exact absurd (.filter ⟨before, after, hr, hb⟩ hfound) h.crashes
        | finished found =>
          cases found with
          | none => exact absurd hfound hf
          | some payload =>
            by_cases hread : payload.Crashes
            · exact absurd (.filterStream ⟨before, after, hr, hb⟩ hfound hread) h.crashes
            · exact absurd ⟨payload, f, ⟨before, after, hr, hb⟩, hfound, hread⟩ h.answers
    refine ⟨hd, ?_⟩
    rcases Route.passed_or_stopped request r.routes with hall | ⟨before, p, after, hr, hb, hp⟩
    · exact hall
    · -- The first route that is not gone past either crashes or is selected.
      have hoffers := offers_of_passes hd hr hb
      exact absurd (Route.passes_iff.mpr ⟨fun hc => h.crashes (.locate hoffers hc),
        fun ht => h.selects ⟨p, hoffers, ht⟩⟩) hp
  · rintro ⟨hd, hb⟩
    have hasked : ∀ f, r.Asks request f → f request = .finished none := by
      rintro f ⟨before, after, hr, -⟩
      exact hd f (by simp [hr])
    have hselects : ¬ ∃ q, r.Selects request q := by
      rintro ⟨q, hoffers, htakes⟩
      exact (Route.passes_iff.mp (hb q (mem_routes_of_offers hoffers))).2 htakes
    constructor
    case crashes =>
      rintro (⟨hf, hcrashed⟩ | ⟨hf, hanswers, -⟩ | ⟨hq, hcrashed⟩ | ⟨q, hq, -⟩)
      · simp [hasked _ hf] at hcrashed
      · simp [hasked _ hf] at hanswers
      · exact (Route.passes_iff.mp (hb _ (mem_routes_of_offers hq))).1 hcrashed
      · exact hselects ⟨q, hq⟩
    case answers =>
      rintro ⟨payload, f, hf, hanswers, -⟩
      simp [hasked f hf] at hanswers
    case selects => exact hselects

/-! ### Causes -/

/-- Why a dispatch ends in this way. -/
inductive Cause (r : Router) (request : Request) : Ending → Prop
  | answered {payload : Payload} (h : r.Answers request payload) :
      Cause r request (.filtered payload)
  | filterCrashed {f : Filter} (h : r.Asks request f) (hf : f request = .crashed) :
      Cause r request (.crashed .filter)
  | filterStreamCrashed {f : Filter} {payload : Payload} (h : r.Asks request f)
      (hf : f request = .finished (some payload)) (hread : payload.Crashes) :
      Cause r request (.crashed .stream)
  | locateCrashed {q : Route} (h : r.Offers request q) (hq : q.CrashesOn request) :
      Cause r request (.crashed .locate)
  | ran {ending : Ending} (h : r.RunsTo request ending) : Cause r request ending
  | refused (h : r.IsUnanswered request) (hm : ∃ q ∈ r.routes, q.Matches request) :
      Cause r request .wrongMethod
  | unmatched (h : r.IsUnanswered request) (hm : ∀ q ∈ r.routes, ¬ q.Matches request) :
      Cause r request .nothing

theorem Ends.cause (h : r.Ends request ending) : r.Cause request ending := by
  cases h with
  | filtered hr hb hf hread        => exact .answered ⟨_, ⟨_, _, hr, hb⟩, hf, hread⟩
  | filterCrashed hr hb hf         => exact .filterCrashed ⟨_, _, hr, hb⟩ hf
  | filteredCrashed hr hb hf hread => exact .filterStreamCrashed ⟨_, _, hr, hb⟩ hf hread
  | selected hd hs =>
    have hscan := r.select_scanned request
    generalize r.select request = selection at hscan hs
    cases hscan with
    | endpoint hr hb he =>
      obtain ⟨hcaptures, hmethod⟩ := Endpoint.offer_eq_captured_iff.mp he
      have hoffers := offers_of_passes hd hr hb
      exact .ran ⟨_, ⟨hoffers, ⟨_, hcaptures⟩, hmethod⟩, .endpoint hcaptures hs⟩
    | asset hr hb ha =>
      obtain ⟨hlocate, hmethod⟩ := Resolver.offer_eq_located_iff.mp ha
      have hoffers := offers_of_passes hd hr hb
      exact .ran ⟨_, ⟨hoffers, ⟨_, hlocate⟩, hmethod⟩, .assets hlocate hs⟩
    | crashed hr hb hc =>
      cases hs
      exact .locateCrashed (offers_of_passes hd hr hb) (Resolver.offer_eq_crashed_iff.mp hc)
    | wrongMethod h hm =>
      cases hs
      obtain ⟨q, hq, hrefuses⟩ := hm
      exact .refused (isUnanswered_iff.mpr ⟨hd, h⟩)
        ⟨q, hq, (Route.refusesMethod_iff_of_passes (h q hq)).mp hrefuses⟩
    | nothing h hm =>
      cases hs
      refine .unmatched (isUnanswered_iff.mpr ⟨hd, h⟩) fun q hq hmatches => ?_
      have hrefuses := (Route.refusesMethod_iff_of_passes (h q hq)).mpr hmatches
      exact Bool.false_ne_true ((hm q hq).symm.trans hrefuses)

theorem Cause.ends (h : r.Cause request ending) : r.Ends request ending := by
  cases h with
  | answered h =>
    obtain ⟨f, ⟨before, after, hr, hb⟩, hf, hread⟩ := h
    exact .filtered hr hb hf hread
  | filterCrashed h hf =>
    obtain ⟨before, after, hr, hb⟩ := h
    exact .filterCrashed hr hb hf
  | filterStreamCrashed h hf hread =>
    obtain ⟨before, after, hr, hb⟩ := h
    exact .filteredCrashed hr hb hf hread
  | @locateCrashed q h hq =>
    obtain ⟨hd, before, after, hr, hb⟩ := h
    cases q with
    | endpoint e => exact hq.elim
    | assets s =>
      have hselect := select_of_crashed hr (fun p hp => Route.passes_iff.mpr (hb p hp))
        (Resolver.offer_eq_crashed_iff.mpr hq)
      exact .selected hd (hselect ▸ .locateCrashed)
  | ran h =>
    obtain ⟨q, ⟨⟨hd, before, after, hr, hb⟩, -, hmethod⟩, hends⟩ := h
    have hpasses : ∀ p ∈ before, p.Passes request := fun p hp => Route.passes_iff.mpr (hb p hp)
    cases hends with
    | endpoint hcaptures h =>
      have hoffer := Endpoint.offer_eq_captured_iff.mpr ⟨hcaptures, hmethod⟩
      exact .selected hd (select_of_captured hr hpasses hoffer ▸ Route.Ends.of_endpoint h _)
    | assets hlocate h =>
      have hoffer := Resolver.offer_eq_located_iff.mpr ⟨hlocate, hmethod⟩
      exact .selected hd (select_of_located hr hpasses hoffer ▸ Route.Ends.of_asset h _)
  | refused h hm =>
    obtain ⟨hd, hb⟩ := isUnanswered_iff.mp h
    obtain ⟨q, hq, hmatches⟩ := hm
    have hany : r.routes.any (·.refusesMethod request) = true :=
      List.any_eq_true.mpr ⟨q, hq, (Route.refusesMethod_iff_of_passes (hb q hq)).mpr hmatches⟩
    have hselect := select_of_passes hb
    rw [if_pos hany] at hselect
    exact .selected hd (hselect ▸ .wrongMethod)
  | unmatched h hm =>
    obtain ⟨hd, hb⟩ := isUnanswered_iff.mp h
    have hany : ¬ r.routes.any (·.refusesMethod request) = true := by
      rw [List.any_eq_true]
      rintro ⟨q, hq, hrefuses⟩
      exact hm q hq ((Route.refusesMethod_iff_of_passes (hb q hq)).mp hrefuses)
    have hselect := select_of_passes hb
    rw [if_neg hany] at hselect
    exact .selected hd (hselect ▸ .nothing)

/-- Every dispatch has a cause, and any cause of it decides its outcome. -/
theorem outcome_eq_iff {outcome : Outcome} :
    (r.dispatch request).outcome = outcome ↔
      ∃ ending, r.Cause request ending ∧ ending.outcome = outcome := by
  constructor
  · rintro rfl
    obtain ⟨ending, h⟩ := r.exists_ends request
    exact ⟨ending, h.cause, h.dispatch_eq.1.symm⟩
  · rintro ⟨ending, h, rfl⟩
    exact h.ends.dispatch_eq.1

/-! ### Outcomes -/

theorem outcome_eq_failed_iff :
    (r.dispatch request).outcome = .failed ↔ r.Crashes request ∨ r.Errs request := by
  rw [outcome_eq_iff]
  constructor
  · rintro ⟨ending, h, houtcome⟩
    cases ending with
    | crashed culprit =>
      cases h with
      | filterCrashed h hf             => exact .inl (.filter h hf)
      | filterStreamCrashed h hf hread => exact .inl (.filterStream h hf hread)
      | locateCrashed h hq             => exact .inl (.locate h hq)
      | ran h                          => exact .inl (.run h)
    | handlerError message =>
      cases h with
      | ran h => exact .inr (.handler h)
    | loadError fault =>
      cases h with
      | ran h => exact .inr (.load h)
    | _ => cases houtcome
  · rintro ((⟨h, hf⟩ | ⟨h, hf, hread⟩ | ⟨h, hq⟩ | h) | (h | h))
    · exact ⟨_, .filterCrashed h hf, rfl⟩
    · exact ⟨_, .filterStreamCrashed h hf hread, rfl⟩
    · exact ⟨_, .locateCrashed h hq, rfl⟩
    · exact ⟨_, .ran h, rfl⟩
    · exact ⟨_, .ran h, rfl⟩
    · exact ⟨_, .ran h, rfl⟩

/-- A route that is run answers, refuses what it is offered, or fails. -/
theorem RunsTo.outcome_cases (h : r.RunsTo request ending) :
    ending.outcome = .handled ∨ ending.outcome = .badRequest ∨ ending.outcome = .failed := by
  obtain ⟨q, -, hends⟩ := h
  cases hends with
  | endpoint _ h | assets _ h => cases h <;> simp [Ending.outcome]

theorem outcome_eq_filtered_iff :
    (r.dispatch request).outcome = .filtered ↔ ∃ payload, r.Answers request payload := by
  rw [outcome_eq_iff]
  constructor
  · rintro ⟨ending, h, houtcome⟩
    cases h with
    | answered h => exact ⟨_, h⟩
    | ran h      => simpa [houtcome] using h.outcome_cases
    | _          => cases houtcome
  · rintro ⟨payload, h⟩
    exact ⟨_, .answered h, rfl⟩

theorem outcome_eq_handled_iff :
    (r.dispatch request).outcome = .handled ↔ ∃ payload, r.RunsTo request (.handled payload) := by
  rw [outcome_eq_iff]
  constructor
  · rintro ⟨ending, h, houtcome⟩
    cases ending with
    | handled payload =>
      cases h with
      | ran h => exact ⟨payload, h⟩
    | _ => cases houtcome
  · rintro ⟨payload, h⟩
    exact ⟨_, .ran h, rfl⟩

theorem outcome_eq_badRequest_iff :
    (r.dispatch request).outcome = .badRequest ↔ ∃ fault, r.RunsTo request (.unbound fault) := by
  rw [outcome_eq_iff]
  constructor
  · rintro ⟨ending, h, houtcome⟩
    cases ending with
    | unbound fault =>
      cases h with
      | ran h => exact ⟨fault, h⟩
    | _ => cases houtcome
  · rintro ⟨fault, h⟩
    exact ⟨_, .ran h, rfl⟩

theorem outcome_eq_methodNotAllowed_iff :
    (r.dispatch request).outcome = .methodNotAllowed ↔
      r.IsUnanswered request ∧ ∃ q ∈ r.routes, q.Matches request := by
  rw [outcome_eq_iff]
  constructor
  · rintro ⟨ending, h, houtcome⟩
    cases h with
    | refused h hm => exact ⟨h, hm⟩
    | ran h        => simpa [houtcome] using h.outcome_cases
    | _            => cases houtcome
  · rintro ⟨h, hm⟩
    exact ⟨_, .refused h hm, rfl⟩

theorem outcome_eq_notFound_iff :
    (r.dispatch request).outcome = .notFound ↔
      r.IsUnanswered request ∧ ∀ q ∈ r.routes, ¬ q.Matches request := by
  rw [outcome_eq_iff]
  constructor
  · rintro ⟨ending, h, houtcome⟩
    cases h with
    | unmatched h hm => exact ⟨h, hm⟩
    | ran h          => simpa [houtcome] using h.outcome_cases
    | _              => cases houtcome
  · rintro ⟨h, hm⟩
    exact ⟨_, .unmatched h hm, rfl⟩

/-- Where no payload is made into the response, the outcome decides the status. -/
theorem status_of_outcome (r : Router) (request : Request) :
    ((r.dispatch request).outcome = .badRequest →
        (r.dispatch request).response.status.code = 400) ∧
      ((r.dispatch request).outcome = .failed →
        (r.dispatch request).response.status.code = 500) ∧
      ((r.dispatch request).outcome = .methodNotAllowed →
        (r.dispatch request).response.status.code = 405) ∧
      ((r.dispatch request).outcome = .notFound →
        (r.dispatch request).response.status.code = 404) := by
  obtain ⟨ending, h⟩ := r.exists_ends request
  rw [h.dispatch_eq.1, h.dispatch_eq.2]
  refine ⟨?_, ?_, ?_, ?_⟩ <;> intro houtcome <;> cases ending <;> first | rfl | cases houtcome

end Router

/-! ### Events -/

/-- The event tells of a dispatch of the request by the router with this response: whose it was, how
it was answered, and what happened in it. -/
structure Event.Reports (r : Router) (request : Request) (response : Response) (e : Event) :
    Prop where
  method : e.method = request.method
  path : e.path = request.path
  status : e.status = response.status
  failed : e.outcome = .failed ↔ r.Crashes request ∨ r.Errs request
  filtered : e.outcome = .filtered ↔ ∃ payload, r.Answers request payload
  handled : e.outcome = .handled ↔ ∃ payload, r.RunsTo request (.handled payload)
  badRequest : e.outcome = .badRequest ↔ ∃ fault, r.RunsTo request (.unbound fault)
  methodNotAllowed : e.outcome = .methodNotAllowed ↔
    r.IsUnanswered request ∧ ∃ q ∈ r.routes, q.Matches request
  notFound : e.outcome = .notFound ↔
    r.IsUnanswered request ∧ ∀ q ∈ r.routes, ¬ q.Matches request
  /-- These outcomes have a status of their own. -/
  statuses : (e.outcome = .badRequest → e.status.code = 400) ∧
    (e.outcome = .failed → e.status.code = 500) ∧
    (e.outcome = .methodNotAllowed → e.status.code = 405) ∧
    (e.outcome = .notFound → e.status.code = 404)

theorem Router.reports_dispatch (r : Router) (request : Request) :
    ((r.dispatch request).event request).Reports r request (r.dispatch request).response where
  method := rfl
  path := rfl
  status := rfl
  failed := outcome_eq_failed_iff
  filtered := outcome_eq_filtered_iff
  handled := outcome_eq_handled_iff
  badRequest := outcome_eq_badRequest_iff
  methodNotAllowed := outcome_eq_methodNotAllowed_iff
  notFound := outcome_eq_notFound_iff
  statuses := r.status_of_outcome request

namespace Dispatcher

/-- However steps are mixed, the observer is told of each dispatch once, when it completes, and is
told the truth: what the router that was published before its start makes of its request. -/
theorem run_observed (initial : Router) (steps : List Step) :
    (∃ done, Completions steps done) ∧
      ∀ done, Completions steps done →
        (run { router := initial } steps).1.length = done.length ∧
          (run { router := initial } steps).2.events.length = done.length ∧
          ∀ (i : Nat) (c : Started), done[i]? = some c → ∃ (response : Response) (event : Event),
            (run { router := initial } steps).1[i]? = some (c.ticket, response) ∧
              (run { router := initial } steps).2.events[i]? = some event ∧
              event.Reports (published initial c.before) c.request response := by
  refine ⟨exists_completions steps, fun done h => ?_⟩
  obtain ⟨hyielded, hevents⟩ := run_of_completions h initial
  rw [hyielded, hevents]
  refine ⟨List.length_map _, List.length_map _, fun i c hc => ?_⟩
  have hreports := (published initial c.before).reports_dispatch c.request
  refine ⟨_, _, ?_, ?_, hreports⟩
  · rw [List.getElem?_map, hc]
    rfl
  · rw [List.getElem?_map, hc]
    rfl

-- The later dispatch completes first, and its handler says by itself that nothing was found.
example :
    let absent : Handler := .request fun _ => .payload (.ofStatus .notFound)
    let a : Pattern := ⟨"/a", [.literal "", .literal "a"], []⟩
    let d := (run { router := { routes := [.endpoint ⟨.get, a, absent⟩] } }
      [.start 0 { method := .get, path := "/b" }, .start 1 { method := .get, path := "/a" },
        .complete 1, .complete 0]).2
    d.events = [⟨.get, "/a", .handled, .notFound⟩, ⟨.get, "/b", .notFound, .notFound⟩] := by
  decide +kernel

end Dispatcher

end Signpost
