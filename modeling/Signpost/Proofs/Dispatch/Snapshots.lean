import Mathlib.Data.List.Basic
import Mathlib.Data.List.Induction
import Signpost.Dispatch.Dispatcher

/-!
# Snapshots

A dispatch keeps the router that was published when it started. `Dispatcher.run_atomic` says so for
any steps in any order: what a completed dispatch yields can be read off the steps before its start
alone, by `published` and `Router.dispatch`. The steps are read without regard to what the routers
do: `Completions` finds the start that each completion belongs to.

The invariant is kept for each ticket apart, as the dispatches that are under way under it: a start
adds one, a completion takes the latest one away, and no other step touches them.
-/

namespace Signpost

namespace Dispatcher

/-! ### Reading steps -/

namespace Step

/-- The router that a step publishes. A build is handed the router without routes, and what fails
publishes nothing. -/
def publishes? : Step → Option Router
  | install r       => some r
  | configure build => (build .empty).toOption
  | reset           => some .empty
  | start _ _       => none
  | complete _      => none

/-- The ticket under which a step starts or completes a dispatch. -/
def ticket? : Step → Option Nat
  | install _      => none
  | configure _    => none
  | reset          => none
  | start ticket _ => some ticket
  | complete ticket => some ticket

end Step

/-- The router that is published behind steps: that of the last exchange that succeeded, or the
initial one. -/
def published (initial : Router) (steps : List Step) : Router :=
  (steps.filterMap Step.publishes?).getLast?.getD initial

/-- Under the ticket, the steps complete exactly what they start. -/
inductive Paired (ticket : Nat) : List Step → Prop
  | nil : Paired ticket []
  | other {s : Step} {steps : List Step} (hs : s.ticket? ≠ some ticket)
      (h : Paired ticket steps) : Paired ticket (s :: steps)
  | dispatch {request : Request} {inner steps : List Step} (hi : Paired ticket inner)
      (h : Paired ticket steps) :
      Paired ticket (.start ticket request :: inner ++ .complete ticket :: steps)

/-- A dispatch that was started: its ticket, all steps before its start, and its request. -/
structure Started where
  ticket : Nat
  before : List Step
  request : Request

/-- The steps leave the dispatch under way, as the latest one under its ticket. -/
def Started.UnderWay (c : Started) (steps : List Step) : Prop :=
  ∃ during, steps = c.before ++ .start c.ticket c.request :: during ∧ Paired c.ticket during

/-- The dispatches that steps complete, in the order of their completions. -/
inductive Completions : List Step → List Started → Prop
  | nil : Completions [] []
  | completed {steps : List Step} {done : List Started} {c : Started} (h : Completions steps done)
      (hc : c.UnderWay steps) : Completions (steps ++ [.complete c.ticket]) (done ++ [c])
  | idle {steps : List Step} {done : List Started} {s : Step} (h : Completions steps done)
      (hs : ∀ c : Started, c.UnderWay steps → s ≠ .complete c.ticket) :
      Completions (steps ++ [s]) done

/-- What the router that was published before the start makes of the request. -/
def Started.dispatched (initial : Router) (c : Started) : Dispatched :=
  (published initial c.before).dispatch c.request

/-! ### Dispatches under one ticket -/

/-- The dispatches that are under way under a ticket, the latest first. -/
def under (d : Dispatcher) (ticket : Nat) : List Flight :=
  (d.inFlight.filter (·.1 == ticket)).map (·.2)

variable {d : Dispatcher} {ticket : Nat} {steps : List Step}

theorem lookup_inFlight (d : Dispatcher) (ticket : Nat) :
    d.inFlight.lookup ticket = (d.under ticket).head? := by
  rw [under]
  induction d.inFlight with
  | nil => rfl
  | cons entry flights ih =>
    obtain ⟨key, flight⟩ := entry
    by_cases hkey : key = ticket
    · simp [hkey]
    · rw [List.lookup_cons, beq_false_of_ne (Ne.symm hkey), ih]
      simp [hkey]

theorem under_eraseP_self (d : Dispatcher) (ticket : Nat) :
    under { d with inFlight := d.inFlight.eraseP (·.1 == ticket) } ticket =
      (d.under ticket).tail := by
  simp only [under]
  induction d.inFlight with
  | nil => rfl
  | cons entry flights ih => by_cases hkey : entry.1 = ticket <;> simp [hkey, ih]

theorem under_eraseP_ne {other : Nat} (h : other ≠ ticket) (d : Dispatcher) :
    under { d with inFlight := d.inFlight.eraseP (·.1 == other) } ticket = d.under ticket := by
  simp only [under]
  induction d.inFlight with
  | nil => rfl
  | cons entry flights ih =>
    by_cases hkey : entry.1 = other
    · simp [hkey, h]
    · rw [List.eraseP_cons_of_neg (by simpa using hkey)]
      by_cases hticket : entry.1 = ticket <;> simp [hticket, ih]

/-! ### One step -/

theorem step_router (d : Dispatcher) (s : Step) :
    (d.step s).2.router = s.publishes?.getD d.router := by
  cases s with
  | install r       => rfl
  | configure build =>
    simp only [step, configure, Step.publishes?]
    cases build .empty <;> rfl
  | reset           => rfl
  | start t request => rfl
  | complete t      =>
    simp only [step, complete, Step.publishes?]
    cases d.inFlight.lookup t <;> rfl

theorem under_start (d : Dispatcher) (ticket : Nat) (request : Request) :
    (d.step (.start ticket request)).2.under ticket = ⟨d.router, request⟩ :: d.under ticket := by
  simp [step, start, under]

theorem under_complete (d : Dispatcher) (ticket : Nat) :
    (d.step (.complete ticket)).2.under ticket = (d.under ticket).tail := by
  simp only [step, complete, lookup_inFlight]
  cases h : d.under ticket with
  | nil               => simp [h]
  | cons flight later => exact (under_eraseP_self d ticket).trans (congrArg List.tail h)

/-- A step under another ticket, or under none, touches no dispatch under this one. -/
theorem under_step {s : Step} (hs : s.ticket? ≠ some ticket) (d : Dispatcher) :
    (d.step s).2.under ticket = d.under ticket := by
  cases s with
  | install r       => rfl
  | configure build =>
    simp only [step, configure]
    cases build .empty <;> rfl
  | reset           => rfl
  | start t request =>
    have ht : t ≠ ticket := by simpa [Step.ticket?] using hs
    simp [step, start, under, ht]
  | complete t      =>
    have ht : t ≠ ticket := by simpa [Step.ticket?] using hs
    simp only [step, complete]
    cases d.inFlight.lookup t with
    | none        => rfl
    | some flight => exact under_eraseP_ne ht d

/-- A completion yields and reports what the router of the latest dispatch makes of its request. -/
theorem step_complete {flight : Flight} {later : List Flight}
    (h : d.under ticket = flight :: later) :
    (d.step (.complete ticket)).1 =
        [(ticket, (flight.router.dispatch flight.request).response)] ∧
      (d.step (.complete ticket)).2.events =
        d.events ++ [(flight.router.dispatch flight.request).event flight.request] := by
  simp [step, complete, lookup_inFlight, h]

/-- All other steps yield and report nothing. -/
theorem step_idle {s : Step} (hs : ∀ ticket, s = .complete ticket → d.under ticket = []) :
    (d.step s).1 = [] ∧ (d.step s).2.events = d.events := by
  cases s with
  | install r       => exact ⟨rfl, rfl⟩
  | configure build =>
    simp only [step, configure]
    cases build .empty <;> exact ⟨rfl, rfl⟩
  | reset           => exact ⟨rfl, rfl⟩
  | start t request => exact ⟨rfl, rfl⟩
  | complete t      => simp [step, complete, lookup_inFlight, hs t rfl]

/-! ### Any number of steps -/

theorem run_cons (d : Dispatcher) (s : Step) (steps : List Step) :
    d.run (s :: steps) =
      ((d.step s).1 ++ ((d.step s).2.run steps).1, ((d.step s).2.run steps).2) := rfl

theorem run_append (d : Dispatcher) (steps later : List Step) :
    d.run (steps ++ later) =
      ((d.run steps).1 ++ ((d.run steps).2.run later).1, ((d.run steps).2.run later).2) := by
  induction steps generalizing d with
  | nil => rfl
  | cons s steps ih => simp only [List.cons_append, run_cons, ih, List.append_assoc]

theorem run_concat (d : Dispatcher) (steps : List Step) (s : Step) :
    d.run (steps ++ [s]) =
      ((d.run steps).1 ++ ((d.run steps).2.step s).1, ((d.run steps).2.step s).2) := by
  rw [run_append, run_cons]
  simp [run]

theorem run_router (d : Dispatcher) (steps : List Step) :
    (d.run steps).2.router = published d.router steps := by
  induction steps generalizing d with
  | nil => rfl
  | cons s steps ih =>
    rw [run_cons, ih, step_router, published, published]
    cases hs : s.publishes? with
    | none   => simp [hs]
    | some r => simp [hs, List.getLast?_cons]

theorem under_of_paired (h : Paired ticket steps) (d : Dispatcher) :
    (d.run steps).2.under ticket = d.under ticket := by
  induction h generalizing d with
  | nil => rfl
  | other hs _ ih => rw [run_cons, ih, under_step hs]
  | dispatch _ _ ihi ih =>
    rw [List.cons_append, run_cons, run_append, run_cons, ih, under_complete, ihi, under_start]
    rfl

/-- A dispatch that is under way is found with the router that was published at its start, and those
before it are as they were then. -/
theorem under_of_underWay {c : Started} (h : c.UnderWay steps) (d : Dispatcher) :
    (d.run steps).2.under c.ticket =
      ⟨published d.router c.before, c.request⟩ :: (d.run c.before).2.under c.ticket := by
  obtain ⟨during, rfl, hpaired⟩ := h
  rw [run_append, run_cons, under_of_paired hpaired, under_start, run_router]

/-! ### Where dispatches were started -/

theorem Paired.append {later : List Step} (h : Paired ticket steps) (hl : Paired ticket later) :
    Paired ticket (steps ++ later) := by
  induction h with
  | nil => exact hl
  | other hs _ ih => exact .other hs ih
  | dispatch hi _ _ ih =>
    rw [List.append_assoc]
    exact .dispatch hi ih

theorem Started.UnderWay.append {c : Started} {later : List Step} (h : c.UnderWay steps)
    (hl : Paired c.ticket later) : c.UnderWay (steps ++ later) := by
  obtain ⟨during, rfl, hpaired⟩ := h
  exact ⟨during ++ later, by simp, hpaired.append hl⟩

/-- What is found under a ticket was started under it. -/
theorem exists_underWay {initial : Router}
    (h : (run { router := initial } steps).2.under ticket ≠ []) :
    ∃ c : Started, c.ticket = ticket ∧ c.UnderWay steps := by
  induction hn : steps.length using Nat.strongRecOn generalizing steps with | ind n ih
  subst hn
  rcases steps.eq_nil_or_concat' with rfl | ⟨earlier, s, rfl⟩
  · exact absurd rfl h
  have hearlier : earlier.length < (earlier ++ [s]).length := by simp
  rw [run_concat] at h
  by_cases hs : s.ticket? = some ticket
  · cases s with
    | install r       => cases hs
    | configure build => cases hs
    | reset           => cases hs
    | start t request =>
      cases hs
      exact ⟨⟨ticket, earlier, request⟩, rfl, [], rfl, .nil⟩
    | complete t      =>
      cases hs
      -- What the completion leaves was under way before the start of the dispatch that it ends.
      rw [under_complete] at h
      obtain ⟨c, rfl, hc⟩ := ih _ hearlier (fun hnil => h (by rw [hnil]; rfl)) rfl
      rw [under_of_underWay hc] at h
      obtain ⟨during, rfl, hpaired⟩ := hc
      have hbefore : c.before.length < (c.before ++ .start c.ticket c.request :: during ++
          [Step.complete c.ticket]).length := by
        simp
      obtain ⟨c', hticket, hc'⟩ := ih _ hbefore h rfl
      rw [← hticket] at hpaired
      refine ⟨c', hticket, ?_⟩
      rw [← hticket, List.append_assoc]
      exact hc'.append (.dispatch hpaired .nil)
  · rw [under_step hs] at h
    obtain ⟨c, rfl, hc⟩ := ih _ hearlier h rfl
    exact ⟨c, rfl, hc.append (.other hs .nil)⟩

/-! ### What completions yield -/

theorem exists_completions (steps : List Step) : ∃ done, Completions steps done := by
  induction steps using List.reverseRecOn with
  | nil => exact ⟨[], .nil⟩
  | append_singleton steps s ih =>
    obtain ⟨done, h⟩ := ih
    by_cases hs : ∃ c : Started, c.UnderWay steps ∧ s = .complete c.ticket
    · obtain ⟨c, hc, rfl⟩ := hs
      exact ⟨done ++ [c], .completed h hc⟩
    · exact ⟨done, .idle h fun c hc heq => hs ⟨c, hc, heq⟩⟩

theorem run_of_completions {done : List Started} (h : Completions steps done) (initial : Router) :
    (run { router := initial } steps).1 =
        done.map (fun c => (c.ticket, (c.dispatched initial).response)) ∧
      (run { router := initial } steps).2.events =
        done.map (fun c => (c.dispatched initial).event c.request) := by
  induction h with
  | nil => exact ⟨rfl, rfl⟩
  | completed _ hc ih =>
    obtain ⟨hdone, hevents⟩ := step_complete (under_of_underWay hc { router := initial })
    rw [run_concat, List.map_append, List.map_append, hdone, hevents, ih.1, ih.2]
    exact ⟨rfl, rfl⟩
  | @idle steps done s _ hs ih =>
    have hunder : ∀ ticket, s = .complete ticket →
        (run { router := initial } steps).2.under ticket = [] := by
      intro ticket heq
      by_contra hne
      obtain ⟨c, rfl, hc⟩ := exists_underWay hne
      exact hs c hc heq
    obtain ⟨hdone, hevents⟩ := step_idle hunder
    rw [run_concat, hdone, hevents, List.append_nil]
    exact ih

/-! ### Configuring -/

theorem step_configure_error {build : Router → Except Registration.Fault Router}
    {fault : Registration.Fault} (h : build .empty = .error fault) (d : Dispatcher) :
    d.step (.configure build) = ([], d) := by
  simp [step, configure, h]

theorem step_configure_congr {build build' : Router → Except Registration.Fault Router}
    (h : build' .empty = build .empty) (d : Dispatcher) :
    d.step (.configure build') = d.step (.configure build) := by
  simp [step, configure, h]

/-! ### Atomic exchanges -/

/-- To dispatch in one go is to start and to complete. -/
theorem run_start_complete (d : Dispatcher) (ticket : Nat) (request : Request) :
    d.run [.start ticket request, .complete ticket] =
      ([(ticket, (d.dispatch request).1)], (d.dispatch request).2) := by
  simp [run, step, start, complete, dispatch]

/-- However steps are mixed, the completed dispatches yield and report what the routers that were
published before their starts make of their requests. A build that fails changes nothing, and a
build counts only by what it makes of the router without routes. -/
theorem run_atomic (initial : Router) (steps : List Step) :
    (∃ done, Completions steps done) ∧
    (∀ done, Completions steps done →
      (run { router := initial } steps).1 =
          done.map (fun c => (c.ticket, (c.dispatched initial).response)) ∧
        (run { router := initial } steps).2.events =
          done.map (fun c => (c.dispatched initial).event c.request)) ∧
    (∀ before build fault after, steps = before ++ .configure build :: after →
      build .empty = .error fault →
      run { router := initial } steps = run { router := initial } (before ++ after)) ∧
    (∀ before build build' after, steps = before ++ .configure build :: after →
      build' .empty = build .empty →
      run { router := initial } steps =
        run { router := initial } (before ++ .configure build' :: after)) := by
  refine ⟨exists_completions steps, fun done h => run_of_completions h initial, ?_, ?_⟩
  · rintro before build fault after rfl hbuild
    rw [run_append, run_cons, step_configure_error hbuild, run_append]
    rfl
  · rintro before build build' after rfl hbuild
    rw [run_append, run_cons, ← step_configure_congr hbuild, ← run_cons, ← run_append]

/-- A reset does not reach a dispatch that is under way. -/
example (r : Router) (request : Request) :
    (run { router := r } [.start 0 request, .reset, .complete 0]).1 =
      [(0, (r.dispatch request).response)] := by
  rfl

end Dispatcher

end Signpost
