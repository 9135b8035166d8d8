import Signpost.Proofs.Dispatch.Scan
import Signpost.Proofs.Router.History

/-!
# Priority

Which registration answers a request, read off the history alone: the latest placement that takes
the request, or else the earliest static content that has its path, or else a fixed answer.
`Router.dispatch_decided` says that dispatch follows this rule for every router that registrations
made and every request that all filters decline.
-/

namespace Signpost

/-! ### The rule -/

/-- What the pattern of a placement captures from a request. -/
def Placement.captures (p : Placement) (request : Request) : Option (List String) :=
  match Pattern.compile p.pattern with
  | .ok pattern => pattern.captures request.path request.query
  | .error _    => none

/-- Path, query and method of the request are those of the placement. -/
def Placement.Takes (p : Placement) (request : Request) : Prop :=
  (p.captures request).isSome = true ∧ p.method = request.method

/-- The response of a placement to the texts that it captured. -/
def Placement.response (p : Placement) (request : Request) (texts : List String) : Response :=
  match p.handler.call request texts with
  | .ok reply => .ofRun reply
  | .error _  => .badRequest

/-- The static content has an asset for the path of the request. -/
def Resolver.Locates (s : Resolver) (request : Request) : Prop :=
  ∃ asset, s.locate request.path = .finished (some asset)

theorem Resolver.declines_of_not {s : Resolver} {request : Request}
    (hc : s.locate request.path ≠ .crashed) (hl : ¬ s.Locates request) :
    s.locate request.path = .finished none := by
  cases h : s.locate request.path with
  | crashed => exact absurd h hc
  | finished found =>
    cases found with
    | none       => rfl
    | some asset => exact absurd ⟨asset, h⟩ hl

/-- A dispatch follows the history. -/
structure History.Decides (h : History) (request : Request) (d : Dispatched) : Prop where
  /-- The latest placement that takes the request answers, and no other route is run, whatever the
  answer is. -/
  byPlacement : ∀ older p newer texts, h.placements = older ++ p :: newer →
    p.captures request = some texts → p.method = request.method →
    (∀ q ∈ newer, ¬ q.Takes request) →
      d.response = p.response request texts ∧
        ∀ c ∈ d.calls, (∃ i, c = .filter i) ∨ c = .handler newer.length
  /-- If no placement takes a `GET`, the earliest static content that has the path answers, and no
  other route is run, whatever the answer is. -/
  byAssets : (∀ p ∈ h.placements, ¬ p.Takes request) → request.method = .get →
    ∀ older s newer asset, h.resolvers = older ++ s :: newer →
    s.locate request.path = .finished (some asset) →
    (∀ q ∈ older, q.locate request.path = .finished none) →
      d.response = .ofRun (s.load asset) ∧
        ∀ c ∈ d.calls, (∃ i, c = .filter i) ∨ c = .load (h.placements.length + older.length)
  /-- If nothing takes the request but a pattern or static content has its path, the method is
  wrong. -/
  wrongMethod : (∀ p ∈ h.placements, ¬ p.Takes request) →
    (request.method = .get → ∀ s ∈ h.resolvers, ¬ s.Locates request) →
    (∀ s ∈ h.resolvers, s.locate request.path ≠ .crashed) →
    ((∃ p ∈ h.placements, (p.captures request).isSome = true) ∨
      ∃ s ∈ h.resolvers, s.Locates request) →
      d.response = .methodNotAllowed
  /-- If nothing has the path, nothing is found. -/
  nothing : (∀ p ∈ h.placements, p.captures request = none) →
    (∀ s ∈ h.resolvers, s.locate request.path = .finished none) →
      d.response = .notFound
  /-- Static content that crashes when it is asked for the path, before any route took the request,
  is answered like an error. -/
  crashed : (∀ p ∈ h.placements, ¬ p.Takes request) →
    ∀ older s newer, h.resolvers = older ++ s :: newer → s.locate request.path = .crashed →
    (∀ q ∈ older, q.locate request.path ≠ .crashed ∧
      (request.method = .get → ¬ q.Locates request)) →
      d.response = .serverError

/-- The rule covers every request: all dispatches that follow it have the same response. -/
theorem History.Decides.response_eq {h : History} {request : Request} {d d' : Dispatched}
    (hd : h.Decides request d) (hd' : h.Decides request d') : d.response = d'.response := by
  -- Which field applies is settled by the latest placement that takes the request and, without one,
  -- by the earliest static content that the scan would stop at.
  rcases exists_last (·.Takes request) h.placements with hp | ⟨older, p, newer, hsplit, ht, hnewer⟩
  · rcases exists_first (fun s => s.locate request.path = .crashed ∨
      request.method = .get ∧ s.Locates request) h.resolvers with
      hs | ⟨older, s, newer, hsplit, hs, holder⟩
    · have hcrash : ∀ s ∈ h.resolvers, s.locate request.path ≠ .crashed :=
        fun s hmem hc => hs s hmem (.inl hc)
      have hget : request.method = .get → ∀ s ∈ h.resolvers, ¬ s.Locates request :=
        fun hm s hmem hl => hs s hmem (.inr ⟨hm, hl⟩)
      by_cases hmeant : (∃ p ∈ h.placements, (p.captures request).isSome = true) ∨
          ∃ s ∈ h.resolvers, s.Locates request
      · rw [hd.wrongMethod hp hget hcrash hmeant, hd'.wrongMethod hp hget hcrash hmeant]
      · obtain ⟨hcaptures, hlocates⟩ := not_or.mp hmeant
        have hnone : ∀ p ∈ h.placements, p.captures request = none := fun p hmem =>
          Option.not_isSome_iff_eq_none.mp fun hsome => hcaptures ⟨p, hmem, hsome⟩
        have hdeclines : ∀ s ∈ h.resolvers, s.locate request.path = .finished none :=
          fun s hmem => Resolver.declines_of_not (hcrash s hmem) fun hl => hlocates ⟨s, hmem, hl⟩
        rw [hd.nothing hnone hdeclines, hd'.nothing hnone hdeclines]
    · have hpassed : ∀ q ∈ older, q.locate request.path ≠ .crashed ∧
          (request.method = .get → ¬ q.Locates request) := fun q hmem =>
        ⟨fun hc => holder q hmem (.inl hc), fun hm hl => holder q hmem (.inr ⟨hm, hl⟩)⟩
      rcases hs with hs | ⟨hm, asset, hs⟩
      · rw [hd.crashed hp older s newer hsplit hs hpassed,
          hd'.crashed hp older s newer hsplit hs hpassed]
      · have hdeclines : ∀ q ∈ older, q.locate request.path = .finished none :=
          fun q hmem => Resolver.declines_of_not (hpassed q hmem).1 ((hpassed q hmem).2 hm)
        rw [(hd.byAssets hp hm older s newer asset hsplit hs hdeclines).1,
          (hd'.byAssets hp hm older s newer asset hsplit hs hdeclines).1]
  · obtain ⟨texts, htexts⟩ := Option.isSome_iff_exists.mp ht.1
    rw [(hd.byPlacement older p newer texts hsplit htexts ht.2 hnewer).1,
      (hd'.byPlacement older p newer texts hsplit htexts ht.2 hnewer).1]

/-! ### Routes of a history -/

namespace Placement.Makes

variable {p : Placement} {e : Endpoint} {request : Request}

theorem handler_eq (h : p.Makes e) : e.handler = p.handler := by
  obtain ⟨pattern, -, -, -, rfl⟩ := Endpoint.make_eq_ok_iff.mp h
  rfl

theorem method_eq (h : p.Makes e) : e.method = p.method := by
  obtain ⟨pattern, -, -, -, rfl⟩ := Endpoint.make_eq_ok_iff.mp h
  rfl

theorem captures_eq (h : p.Makes e) (request : Request) :
    e.pattern.captures request.path request.query = p.captures request := by
  obtain ⟨pattern, hcompile, -, -, rfl⟩ := Endpoint.make_eq_ok_iff.mp h
  simp [Placement.captures, hcompile]

theorem passes_iff (h : p.Makes e) : (Route.endpoint e).Passes request ↔ ¬ p.Takes request := by
  rw [Route.passes_endpoint_iff]
  simp only [Endpoint.offer_eq_captured_iff, h.captures_eq, h.method_eq, ne_eq, not_and]
  constructor
  · rintro hp ⟨hsome, hm⟩
    obtain ⟨texts, ht⟩ := Option.isSome_iff_exists.mp hsome
    exact hp texts ht hm.symm
  · intro hp texts ht hm
    exact hp ⟨by simp [ht], hm.symm⟩

theorem refusesMethod_iff (h : p.Makes e) :
    (Route.endpoint e).refusesMethod request = true ↔
      (p.captures request).isSome = true ∧ request.method ≠ p.method := by
  rw [Route.refusesMethod_iff, Route.offer_endpoint, Attempt.finished.injEq,
    Endpoint.offer_eq_wrongMethod_iff, h.captures_eq, h.method_eq]

end Placement.Makes

theorem Resolver.refusesMethod_iff {s : Resolver} {request : Request} :
    (Route.assets s).refusesMethod request = true ↔
      s.Locates request ∧ request.method ≠ .get := by
  rw [Route.refusesMethod_iff, Route.offer_assets, Resolver.offer_eq_wrongMethod_iff]
  rfl

namespace Router

variable {h : History} {r : Router} {request : Request}

/-- If nothing takes the request and no static content crashes, the scan passes all routes. -/
theorem passes_all (hl : h.LaysOut r) (hp : ∀ p ∈ h.placements, ¬ p.Takes request)
    (hs : ∀ s ∈ h.resolvers, s.locate request.path ≠ .crashed ∧
      (request.method = .get → ¬ s.Locates request)) :
    ∀ q ∈ r.routes, q.Passes request := by
  intro q hq
  cases q with
  | endpoint e =>
    obtain ⟨p, hmem, hmakes⟩ := (endpoint_mem_routes_iff hl).mp hq
    exact hmakes.passes_iff.mpr (hp p hmem)
  | assets s =>
    obtain ⟨hcrash, hget⟩ := hs s ((assets_mem_routes_iff hl).mp hq)
    exact Route.passes_assets_iff.mpr ⟨hcrash, fun hm asset ha => hget hm ⟨asset, ha⟩⟩

/-- The scan passes the placements and the static content before the one in question. -/
theorem passes_before {older : List Resolver} {before : List Route}
    (hbefore : ∀ q ∈ before, (∃ p ∈ h.placements, ∃ e, q = .endpoint e ∧ p.Makes e) ∨
      ∃ s ∈ older, q = .assets s)
    (hp : ∀ p ∈ h.placements, ¬ p.Takes request)
    (hs : ∀ s ∈ older, s.locate request.path ≠ .crashed ∧
      (request.method = .get → ¬ s.Locates request)) :
    ∀ q ∈ before, q.Passes request := by
  intro q hq
  rcases hbefore q hq with ⟨p, hmem, e, rfl, hmakes⟩ | ⟨s, hmem, rfl⟩
  · exact hmakes.passes_iff.mpr (hp p hmem)
  · obtain ⟨hcrash, hget⟩ := hs s hmem
    exact Route.passes_assets_iff.mpr ⟨hcrash, fun hm asset ha => hget hm ⟨asset, ha⟩⟩

/-- Some route refuses the method if a pattern or static content has the path. -/
theorem refusesMethod_any_iff (hl : h.LaysOut r) (hp : ∀ p ∈ h.placements, ¬ p.Takes request)
    (hs : request.method = .get → ∀ s ∈ h.resolvers, ¬ s.Locates request) :
    r.routes.any (·.refusesMethod request) = true ↔
      (∃ p ∈ h.placements, (p.captures request).isSome = true) ∨
        ∃ s ∈ h.resolvers, s.Locates request := by
  rw [List.any_eq_true]
  constructor
  · rintro ⟨q, hq, href⟩
    cases q with
    | endpoint e =>
      obtain ⟨p, hmem, hmakes⟩ := (endpoint_mem_routes_iff hl).mp hq
      exact .inl ⟨p, hmem, (hmakes.refusesMethod_iff.mp href).1⟩
    | assets s =>
      exact .inr ⟨s, (assets_mem_routes_iff hl).mp hq, (Resolver.refusesMethod_iff.mp href).1⟩
  · rintro (⟨p, hmem, hsome⟩ | ⟨s, hmem, hloc⟩)
    · obtain ⟨older, newer, hsplit⟩ := List.append_of_mem hmem
      obtain ⟨before, e, after, hr, hmakes, -⟩ := routes_of_placement hl hsplit
      have hm : request.method ≠ p.method := fun hm => hp p hmem ⟨hsome, hm.symm⟩
      exact ⟨.endpoint e, by simp [hr], hmakes.refusesMethod_iff.mpr ⟨hsome, hm⟩⟩
    · have hm : request.method ≠ .get := fun hm => hs hm s hmem hloc
      exact ⟨.assets s, (assets_mem_routes_iff hl).mpr hmem,
        Resolver.refusesMethod_iff.mpr ⟨hloc, hm⟩⟩

/-! ### What is selected -/

theorem select_placement {older newer : List Placement} {p : Placement} {texts : List String}
    (hl : h.LaysOut r) (hsplit : h.placements = older ++ p :: newer)
    (htexts : p.captures request = some texts) (hm : p.method = request.method)
    (hnewer : ∀ q ∈ newer, ¬ q.Takes request) :
    ∃ e, p.Makes e ∧ r.select request = .endpoint newer.length e texts := by
  obtain ⟨before, e, after, hr, hmakes, hlen, hbefore⟩ := routes_of_placement hl hsplit
  have hpasses : ∀ q ∈ before, q.Passes request := by
    intro q hq
    obtain ⟨p', hp', e', rfl, hmakes'⟩ := hbefore q hq
    exact hmakes'.passes_iff.mpr (hnewer p' hp')
  have hoffer : e.offer request = .captured texts :=
    Endpoint.offer_eq_captured_iff.mpr
      ⟨(hmakes.captures_eq request).trans htexts, hm.symm.trans hmakes.method_eq.symm⟩
  exact ⟨e, hmakes, hlen ▸ select_of_captured hr hpasses hoffer⟩

theorem select_resolver {older newer : List Resolver} {s : Resolver} {asset : AssetPath}
    (hl : h.LaysOut r) (hp : ∀ p ∈ h.placements, ¬ p.Takes request)
    (hget : request.method = .get) (hsplit : h.resolvers = older ++ s :: newer)
    (hs : s.locate request.path = .finished (some asset))
    (holder : ∀ q ∈ older, q.locate request.path = .finished none) :
    r.select request = .asset (h.placements.length + older.length) s asset := by
  obtain ⟨before, after, hr, hlen, hbefore⟩ := routes_of_resolver hl hsplit
  have hpasses := passes_before hbefore hp fun q hq =>
    ⟨by simp [holder q hq], fun _ ⟨a, ha⟩ => by simp [holder q hq] at ha⟩
  exact hlen ▸ select_of_located hr hpasses (Resolver.offer_eq_located_iff.mpr ⟨hs, hget⟩)

theorem select_wrongMethod (hl : h.LaysOut r) (hp : ∀ p ∈ h.placements, ¬ p.Takes request)
    (hget : request.method = .get → ∀ s ∈ h.resolvers, ¬ s.Locates request)
    (hcrash : ∀ s ∈ h.resolvers, s.locate request.path ≠ .crashed)
    (hmeant : (∃ p ∈ h.placements, (p.captures request).isSome = true) ∨
      ∃ s ∈ h.resolvers, s.Locates request) :
    r.select request = .wrongMethod := by
  have hpasses := passes_all hl hp fun s hs => ⟨hcrash s hs, fun hm => hget hm s hs⟩
  rw [select_of_passes hpasses, if_pos ((refusesMethod_any_iff hl hp hget).mpr hmeant)]

theorem select_nothing (hl : h.LaysOut r) (hp : ∀ p ∈ h.placements, p.captures request = none)
    (hs : ∀ s ∈ h.resolvers, s.locate request.path = .finished none) :
    r.select request = .nothing := by
  have htakes : ∀ p ∈ h.placements, ¬ p.Takes request := fun p hmem ht => by
    simp [Placement.Takes, hp p hmem] at ht
  have hlocates : ∀ s ∈ h.resolvers, ¬ s.Locates request := fun s hmem ⟨a, ha⟩ => by
    simp [hs s hmem] at ha
  have hpasses := passes_all hl htakes fun s hmem =>
    ⟨by simp [hs s hmem], fun _ => hlocates s hmem⟩
  rw [select_of_passes hpasses, if_neg]
  rw [refusesMethod_any_iff hl htakes fun _ => hlocates]
  rintro (⟨p, hmem, hsome⟩ | ⟨s, hmem, hloc⟩)
  · simp [hp p hmem] at hsome
  · exact hlocates s hmem hloc

theorem select_crashed {older newer : List Resolver} {s : Resolver} (hl : h.LaysOut r)
    (hp : ∀ p ∈ h.placements, ¬ p.Takes request) (hsplit : h.resolvers = older ++ s :: newer)
    (hs : s.locate request.path = .crashed)
    (holder : ∀ q ∈ older, q.locate request.path ≠ .crashed ∧
      (request.method = .get → ¬ q.Locates request)) :
    r.select request = .crashed := by
  obtain ⟨before, after, hr, -, hbefore⟩ := routes_of_resolver hl hsplit
  have hpasses := passes_before hbefore hp holder
  exact select_of_crashed hr hpasses (Resolver.offer_eq_crashed_iff.mpr hs)

/-! ### The rule is followed -/

theorem answer_endpoint {p : Placement} {e : Endpoint} (hmakes : p.Makes e) (request : Request)
    (index : Nat) (texts : List String) :
    (Answer.caught (answer request (.endpoint index e texts)).value).response =
        p.response request texts ∧
      ∀ c ∈ (answer request (.endpoint index e texts)).calls, c = .handler index := by
  rw [Placement.response, ← hmakes.handler_eq]
  cases hcall : e.handler.call request texts with
  | ok reply    => simp [answer_of_call_eq_ok hcall, Answer.caught_ofRun_response]
  | error fault => simp [answer_of_call_eq_error hcall, Answer.caught]

theorem decides_of_laysOut (hl : h.LaysOut r) (hf : ∀ f ∈ h.filters, f request = .finished none) :
    h.Decides request (r.dispatch request) := by
  have hdeclined : ∀ f ∈ r.filters, f request = .finished none := by
    obtain ⟨-, -, -, hfilters⟩ := hl
    rwa [hfilters]
  have hresponse := response_of_declined hdeclined
  have hcalls : ∀ c ∈ (r.dispatch request).calls,
      (∃ i, c = .filter i) ∨ c ∈ (answer request (r.select request)).calls :=
    fun c hc => mem_calls_dispatch hc
  constructor
  case byPlacement =>
    intro older p newer texts hsplit htexts hm hnewer
    obtain ⟨e, hmakes, hselect⟩ := select_placement hl hsplit htexts hm hnewer
    obtain ⟨hanswer, hran⟩ := answer_endpoint hmakes request newer.length texts
    rw [hselect] at hresponse hcalls
    exact ⟨hresponse.trans hanswer, fun c hc => (hcalls c hc).imp_right (hran c)⟩
  case byAssets =>
    intro hp hget older s newer asset hsplit hs holder
    rw [select_resolver hl hp hget hsplit hs holder] at hresponse hcalls
    rw [answer_asset] at hresponse hcalls
    refine ⟨hresponse.trans (Answer.caught_ofRun_response _), fun c hc => ?_⟩
    exact (hcalls c hc).imp_right List.mem_singleton.mp
  case wrongMethod =>
    intro hp hget hcrash hmeant
    rw [hresponse, select_wrongMethod hl hp hget hcrash hmeant]
    rfl
  case nothing =>
    intro hp hs
    rw [hresponse, select_nothing hl hp hs]
    rfl
  case crashed =>
    intro hp older s newer hsplit hs holder
    rw [hresponse, select_crashed hl hp hsplit hs holder]
    rfl

/-- A router that registrations made answers every request that all filters decline as the history
decides, and the history leaves no other response to the request. -/
theorem dispatch_decided {cs : List Registration} (hr : empty.registerAll cs = .ok r)
    (hf : ∀ f ∈ (History.of cs).filters, f request = .finished none) :
    (History.of cs).Decides request (r.dispatch request) ∧
      ∀ d, (History.of cs).Decides request d → d.response = (r.dispatch request).response := by
  have hdecides := decides_of_laysOut (registerAll_laysOut hr) hf
  exact ⟨hdecides, fun d hd => hd.response_eq hdecides⟩

/-- A mounted handler that fails is final: neither the earlier pattern for the same path nor the
static content is asked. -/
theorem dispatch_decided_failing_mount :
    let mute : Handler := .positional [] fun _ => .error "mute"
    let cs : List Registration :=
      [.assets ⟨fun _ => .finished (some ⟨["page"]⟩), fun _ => .finished (.ok (.html "page"))⟩,
        .on .get "/:what/hello" (.positional [.text] fun what => .payload (.html what.1)),
        .filter fun _ => .finished none,
        .mount "/say/" [⟨.get, ["/bye", "/hello"], mute⟩]]
    ∃ r, empty.registerAll cs = .ok r ∧
      (r.dispatch { method := .get, path := "/say/hello" }).response = .serverError := by
  intro mute cs
  obtain ⟨r, hr⟩ : ∃ r, empty.registerAll cs = .ok r := ⟨_, rfl⟩
  have hf : ∀ f ∈ (History.of cs).filters,
      f { method := .get, path := "/say/hello" } = .finished none := by
    simp [History.of, History.add, cs]
  have hlast : (History.of cs).placements =
      (History.of cs).placements.dropLast ++ [⟨.get, "/say/hello", mute⟩] := rfl
  have hanswer :=
    (dispatch_decided hr hf).1.byPlacement _ _ [] [] hlast (by decide +kernel) rfl (by simp)
  exact ⟨r, hr, hanswer.1⟩

end Router

end Signpost
