import Mathlib.Data.List.DropRight
import Mathlib.Data.List.Induction
import Signpost.Proofs.Dispatch.Endings
import Signpost.Proofs.Router.Priority

/-!
# Reordering registrations

Handlers, static content and filters do not care how they are mixed: only the order within each kind
is in the router. Among handlers the order matters to requests that two of them take, and to no
others. `Router.dispatch_reordered` says both.

An exchange of handlers moves routes to other places, so the selections before and after it are
compared with their places left out. A scan finds the same then, because at most one side of the
exchange can stop it, and because it does not matter in which order the routes that it passes have
refused the method.
-/

namespace Signpost

variable {request : Request}

/-! ### Kinds of registrations -/

inductive Registration.Kind
  | handlers
  | assets
  | filter
deriving DecidableEq, Repr

namespace Registration

def kind? : Registration → Option Kind
  | on _ _ _  => some .handlers
  | mount _ _ => some .handlers
  | assets _  => some .assets
  | filter _  => some .filter
  | reset     => none

def placements : Registration → List Placement
  | on method pattern handler => [⟨method, pattern, handler⟩]
  | mount mountPoint entries  => entries.flatMap (Entry.placements mountPoint)
  | assets _                  => []
  | filter _                  => []
  | reset                     => []

def resolvers : Registration → List Resolver
  | assets resolver => [resolver]
  | _               => []

def filters : Registration → List Filter
  | filter f => [f]
  | _        => []

theorem placements_eq_nil {c : Registration} (hc : c.kind? ≠ some .handlers) :
    c.placements = [] := by
  cases c <;> simp_all [kind?, placements]

theorem resolvers_eq_nil {c : Registration} (hc : c.kind? ≠ some .assets) :
    c.resolvers = [] := by
  cases c <;> simp_all [kind?, resolvers]

theorem filters_eq_nil {c : Registration} (hc : c.kind? ≠ some .filter) : c.filters = [] := by
  cases c <;> simp_all [kind?, filters]

/-- The registrations behind the last reset. -/
def sinceReset (cs : List Registration) : List Registration :=
  cs.rtakeWhile (·.kind?.isSome)

/-- The same registrations of each kind in the same order, mixed in any way. -/
def SameByKind (cs cs' : List Registration) : Prop :=
  ∀ kind, (sinceReset cs).filter (·.kind? = some kind) =
    (sinceReset cs').filter (·.kind? = some kind)

end Registration

namespace History

variable {cs cs' : List Registration}

theorem add_eq (h : History) {c : Registration} (hc : c.kind?.isSome = true) :
    h.add c = ⟨h.placements ++ c.placements, h.resolvers ++ c.resolvers,
      h.filters ++ c.filters⟩ := by
  cases c with
  | reset => cases hc
  | _ => simp [add, Registration.placements, Registration.resolvers, Registration.filters]

theorem of_concat (cs : List Registration) (c : Registration) :
    of (cs ++ [c]) = (of cs).add c := by
  simp [of]

/-- A history holds what was registered since the last reset, each kind apart. -/
theorem of_eq (cs : List Registration) :
    of cs = ⟨(Registration.sinceReset cs).flatMap Registration.placements,
      (Registration.sinceReset cs).flatMap Registration.resolvers,
      (Registration.sinceReset cs).flatMap Registration.filters⟩ := by
  induction cs using List.reverseRecOn with
  | nil => rfl
  | append_singleton cs c ih =>
    rw [of_concat, Registration.sinceReset, List.rtakeWhile_concat]
    split
    · rename_i hc
      rw [add_eq _ hc, ih]
      simp [Registration.sinceReset]
    · cases c with
      | reset => rfl
      | _ => exact absurd rfl ‹_›

/-- What registrations of one kind alone contribute can be collected from those. -/
theorem flatMap_kind {α : Type} {f : Registration → List α} {kind : Registration.Kind}
    (hf : ∀ c, c.kind? ≠ some kind → f c = []) (cs : List Registration) :
    (cs.filter (·.kind? = some kind)).flatMap f = cs.flatMap f := by
  induction cs with
  | nil => rfl
  | cons c cs ih =>
    by_cases hc : c.kind? = some kind
    · simp [hc, ih]
    · simp [hc, ih, hf c hc]

theorem of_eq_of_sameByKind (h : Registration.SameByKind cs cs') : of cs = of cs' := by
  have hplacements := flatMap_kind (fun _ hc => Registration.placements_eq_nil hc)
  have hresolvers := flatMap_kind (fun _ hc => Registration.resolvers_eq_nil hc)
  have hfilters := flatMap_kind (fun _ hc => Registration.filters_eq_nil hc)
  rw [of_eq, of_eq, ← hplacements, ← hresolvers, ← hfilters, h, h, h, hplacements, hresolvers,
    hfilters]

/-- A history leaves one router. -/
theorem LaysOut.unique {h : History} {r r' : Router} (hl : h.LaysOut r) (hl' : h.LaysOut r') :
    r = r' := by
  obtain ⟨es, hes, hroutes, hfilters⟩ := hl
  obtain ⟨es', hes', hroutes', hfilters'⟩ := hl'
  have hmakes : Relator.RightUnique Placement.Makes := fun p e e' he he' =>
    Except.ok.inj (he.symm.trans he')
  cases List.right_unique_forall₂' hmakes hes hes'
  cases r
  cases r'
  simp_all

end History

/-! ### Selections without their places -/

/-- The selection as if there were no other routes than the selected one. -/
def Selection.unplaced : Selection → Selection
  | endpoint _ e texts => endpoint 0 e texts
  | asset _ s a        => asset 0 s a
  | wrongMethod        => wrongMethod
  | nothing            => nothing
  | crashed            => crashed

/-- A route that is not passed stops the scan wherever it stands. -/
theorem selectFrom_unplaced {before : List Route} {q : Route}
    (hb : ∀ p ∈ before, p.Passes request) (hq : ¬ q.Passes request) (after : List Route)
    (index : Nat) (meant : Bool) :
    (selectFrom request index meant (before ++ q :: after)).unplaced =
      selectFrom request 0 false [q] := by
  rw [selectFrom_append hb]
  rcases Route.stops_of_not_passes hq with ⟨e, texts, rfl, he⟩ | ⟨s, asset, rfl, hs⟩ | ⟨s, rfl, hs⟩
  · simp [selectFrom, he, Selection.unplaced]
  · simp [selectFrom, hs, Selection.unplaced]
  · simp [selectFrom, hs, Selection.unplaced]

/-- Routes that all pass can be put behind other routes. -/
theorem selectFrom_passed_comm {ps : List Route} (hps : ∀ p ∈ ps, p.Passes request)
    (qs after : List Route) (index : Nat) (meant : Bool) :
    (selectFrom request index meant (ps ++ (qs ++ after))).unplaced =
      (selectFrom request index meant (qs ++ (ps ++ after))).unplaced := by
  rcases Route.passed_or_stopped request qs with hqs | ⟨before, q, later, rfl, hb, hq⟩
  · rw [selectFrom_append hps, selectFrom_append hqs, selectFrom_append hqs,
      selectFrom_append hps, Nat.add_right_comm, Bool.or_right_comm]
  · have hpb : ∀ p ∈ ps ++ before, p.Passes request := List.forall_mem_append.mpr ⟨hps, hb⟩
    have hfirst := selectFrom_unplaced hpb hq (later ++ after) index meant
    have hlast := selectFrom_unplaced hb hq (later ++ (ps ++ after)) index meant
    simpa using hfirst.trans hlast.symm

/-- Two stretches of routes can be exchanged if no two of their routes stop the scan. -/
theorem selectFrom_exchanged {ps qs : List Route}
    (h : ∀ p ∈ ps, ∀ q ∈ qs, p.Passes request ∨ q.Passes request) (before after : List Route)
    (index : Nat) (meant : Bool) :
    (selectFrom request index meant (before ++ (ps ++ (qs ++ after)))).unplaced =
      (selectFrom request index meant (before ++ (qs ++ (ps ++ after)))).unplaced := by
  rcases Route.passed_or_stopped request before with hb | ⟨first, q, later, rfl, hfirst, hq⟩
  · rw [selectFrom_append hb, selectFrom_append hb]
    by_cases hps : ∀ p ∈ ps, p.Passes request
    · exact selectFrom_passed_comm hps qs after _ _
    · have hqs : ∀ q ∈ qs, q.Passes request := by
        intro q hmem
        by_contra hq
        exact hps fun p hp => (h p hp q hmem).resolve_right hq
      exact (selectFrom_passed_comm hqs ps after _ _).symm
  · rw [List.append_assoc, List.append_assoc, List.cons_append, List.cons_append,
      selectFrom_unplaced hfirst hq, selectFrom_unplaced hfirst hq]

theorem Selection.Ends.unplaced {selection : Selection} {ending : Ending}
    (h : selection.Ends request ending) : selection.unplaced.Ends request ending := by
  cases h <;> constructor <;> assumption

namespace Router

theorem answer_unplaced (request : Request) (selection : Selection) :
    Answer.caught (answer request selection.unplaced).value =
      Answer.caught (answer request selection).value := by
  obtain ⟨ending, h⟩ := selection.exists_ends request
  rw [h.answer_eq, h.unplaced.answer_eq]

/-- The outcome and the response depend on the filters and on what is selected, but not on where it
stands. -/
theorem dispatch_eq_of_unplaced {r r' : Router} (hf : r.filters = r'.filters)
    (hs : (r.select request).unplaced = (r'.select request).unplaced) :
    (r.dispatch request).outcome = (r'.dispatch request).outcome ∧
      (r.dispatch request).response = (r'.dispatch request).response := by
  have hanswer : Answer.caught (answer request (r.select request)).value =
      Answer.caught (answer request (r'.select request)).value := by
    rw [← answer_unplaced, hs, answer_unplaced]
  rw [dispatch, dispatch, route, route, hf]
  simp only [Recorded.value_bind]
  split
  · exact ⟨rfl, rfl⟩
  · exact ⟨congrArg Answer.outcome hanswer, congrArg Answer.response hanswer⟩
  · exact ⟨rfl, rfl⟩

end Router

/-! ### Exchanged placements -/

/-- No request is one of both placements: their methods differ, or there is no path and query from
which both patterns capture. -/
def Placement.Apart (p q : Placement) : Prop :=
  p.method ≠ q.method ∨ ∀ request, p.captures request = none ∨ q.captures request = none

theorem Placement.Apart.passes {p q : Placement} {e e' : Endpoint} (h : p.Apart q)
    (hp : p.Makes e) (hq : q.Makes e') (request : Request) :
    (Route.endpoint e).Passes request ∨ (Route.endpoint e').Passes request := by
  rw [hp.passes_iff, hq.passes_iff, ← not_and_or]
  rintro ⟨⟨hsome, hm⟩, hsome', hm'⟩
  rcases h with hne | hnone
  · exact hne (hm.trans hm'.symm)
  · rcases hnone request with hn | hn
    · simp [hn] at hsome
    · simp [hn] at hsome'

namespace History

/-- The histories differ by an exchange of two stretches of placements that are apart. -/
structure Exchanged (h h' : History) : Prop where
  placements : ∃ older ps qs newer, h.placements = older ++ (ps ++ (qs ++ newer)) ∧
    h'.placements = older ++ (qs ++ (ps ++ newer)) ∧ ∀ p ∈ ps, ∀ q ∈ qs, p.Apart q
  resolvers : h.resolvers = h'.resolvers
  filters : h.filters = h'.filters

variable {h h' : History}

theorem Exchanged.add (hx : h.Exchanged h') (c : Registration) :
    (h.add c).Exchanged (h'.add c) := by
  obtain ⟨⟨older, ps, qs, newer, hp, hp', hapart⟩, hr, hf⟩ := hx
  by_cases hc : c.kind?.isSome = true
  · rw [add_eq h hc, add_eq h' hc, hr, hf]
    exact ⟨⟨older, ps, qs, newer ++ c.placements, by simp [hp], by simp [hp'], hapart⟩, rfl, rfl⟩
  · cases c with
    | reset => exact ⟨⟨[], [], [], [], rfl, rfl, by simp⟩, rfl, rfl⟩
    | _ => exact absurd rfl hc

theorem Exchanged.foldl_add (hx : h.Exchanged h') (cs : List Registration) :
    (cs.foldl History.add h).Exchanged (cs.foldl History.add h') := by
  induction cs generalizing h h' with
  | nil => exact hx
  | cons c cs ih => exact ih (hx.add c)

end History

/-- Two registrations of handlers that are apart. -/
structure Registration.Apart (c d : Registration) : Prop where
  left : c.kind? = some .handlers
  right : d.kind? = some .handlers
  placements : ∀ p ∈ c.placements, ∀ q ∈ d.placements, p.Apart q

/-- Static content or a filter. -/
def Registration.IsAside (c : Registration) : Prop :=
  c.kind? = some .assets ∨ c.kind? = some .filter

section Registrations

variable {c d : Registration} {before between after : List Registration}

theorem History.add_handlers (hc : c.kind? = some .handlers) (h : History) :
    h.add c = { h with placements := h.placements ++ c.placements } := by
  rw [add_eq h (by simp [hc]), Registration.resolvers_eq_nil (by simp [hc]),
    Registration.filters_eq_nil (by simp [hc]), List.append_nil, List.append_nil]

theorem History.add_aside (hc : c.IsAside) (h : History) :
    h.add c =
      { h with resolvers := h.resolvers ++ c.resolvers, filters := h.filters ++ c.filters } := by
  rcases hc with hc | hc <;>
    rw [add_eq h (by simp [hc]), Registration.placements_eq_nil (by simp [hc]), List.append_nil]

theorem History.foldl_add_aside (hc : c.kind? = some .handlers) (hb : ∀ b ∈ between, b.IsAside)
    (h : History) : between.foldl History.add (h.add c) = (between.foldl History.add h).add c := by
  induction between generalizing h with
  | nil => rfl
  | cons b between ih =>
    obtain ⟨hb, hbetween⟩ := List.forall_mem_cons.mp hb
    have hcomm : (h.add c).add b = (h.add b).add c := by
      rw [add_handlers hc, add_aside hb, add_aside hb, add_handlers hc]
    rw [List.foldl_cons, List.foldl_cons, hcomm, ih hbetween]

theorem Registration.Apart.exchanged_add (h : c.Apart d) (earlier : History) :
    ((earlier.add c).add d).Exchanged ((earlier.add d).add c) := by
  rw [History.add_handlers h.left, History.add_handlers h.right, History.add_handlers h.right,
    History.add_handlers h.left]
  exact ⟨⟨earlier.placements, c.placements, d.placements, [], by simp, by simp, h.placements⟩,
    rfl, rfl⟩

theorem Registration.Apart.exchanged (h : c.Apart d) (hb : ∀ b ∈ between, b.IsAside) :
    (History.of (before ++ c :: (between ++ d :: after))).Exchanged
      (History.of (before ++ d :: (between ++ c :: after))) := by
  have hfold := (h.exchanged_add (between.foldl History.add (History.of before))).foldl_add after
  rw [← History.foldl_add_aside h.left hb (History.of before),
    ← History.foldl_add_aside h.right hb (History.of before)] at hfold
  simpa [History.of] using hfold

end Registrations

namespace Router

variable {r r' : Router} {h h' : History}

/-- Routers with exchanged histories answer alike. -/
theorem dispatch_of_exchanged (hx : h.Exchanged h') (hl : h.LaysOut r) (hl' : h'.LaysOut r')
    (request : Request) :
    (r.dispatch request).outcome = (r'.dispatch request).outcome ∧
      (r.dispatch request).response = (r'.dispatch request).response := by
  obtain ⟨⟨older, ps, qs, newer, hp, hp', hapart⟩, hresolvers, hfilters⟩ := hx
  obtain ⟨es, hes, hroutes, hf⟩ := hl
  rw [hp] at hes
  obtain ⟨es₁, es', rfl, h₁, hes'⟩ := forall₂_append_left hes
  obtain ⟨es₂, es'', rfl, h₂, hes''⟩ := forall₂_append_left hes'
  obtain ⟨es₃, es₄, rfl, h₃, h₄⟩ := forall₂_append_left hes''
  -- The endpoints of the exchanged stretches are the same ones, and no request stops at both.
  have hexchanged : h'.LaysOut
      { routes := (es₁ ++ (es₃ ++ (es₂ ++ es₄))).reverse.map .endpoint ++ h.resolvers.map .assets
        filters := h.filters } := by
    refine ⟨_, ?_, by rw [hresolvers], hfilters⟩
    rw [hp']
    exact List.rel_append h₁ (List.rel_append h₃ (List.rel_append h₂ h₄))
  cases hl'.unique hexchanged
  have hpasses : ∀ q ∈ es₃.reverse.map Route.endpoint, ∀ p ∈ es₂.reverse.map Route.endpoint,
      q.Passes request ∨ p.Passes request := by
    intro q hq p hp
    obtain ⟨e', he', rfl⟩ := List.mem_map.mp hq
    obtain ⟨e, he, rfl⟩ := List.mem_map.mp hp
    obtain ⟨p, hp, hpe⟩ := forall₂_exists_left h₂ (List.mem_reverse.mp he)
    obtain ⟨q, hq, hqe⟩ := forall₂_exists_left h₃ (List.mem_reverse.mp he')
    exact ((hapart p hp q hq).passes hpe hqe request).symm
  have hselect := selectFrom_exchanged hpasses (es₄.reverse.map .endpoint)
    (es₁.reverse.map .endpoint ++ h.resolvers.map .assets) 0 false
  refine dispatch_eq_of_unplaced hf ?_
  rw [select, select, hroutes]
  simpa using hselect

/-! ### What can be registered -/

/-- A registration succeeds if its placements make endpoints, in whatever router. -/
theorem exists_register_iff {r : Router} {c : Registration} :
    (∃ r', r.register c = .ok r') ↔ ∀ p ∈ c.placements, ∃ e, p.Makes e := by
  cases c with
  | on method pattern handler =>
    simp only [register, on, bind_eq_ok_iff, Registration.placements, List.mem_singleton,
      forall_eq]
    constructor
    · rintro ⟨r', e, he, -⟩
      exact ⟨e, he⟩
    · rintro ⟨e, he⟩
      exact ⟨_, e, he, rfl⟩
  | mount mountPoint entries =>
    simp only [register, mount, bind_eq_ok_iff, Registration.placements]
    rw [← exists_forall₂_iff]
    constructor
    · rintro ⟨r', es, hes, -⟩
      exact ⟨es, mountedEndpoints_eq_ok_iff.mp hes⟩
    · rintro ⟨es, hes⟩
      exact ⟨_, es, mountedEndpoints_eq_ok_iff.mpr hes, rfl⟩
  | assets resolver => simp [register, Registration.placements]
  | filter f        => simp [register, Registration.placements]
  | reset           => simp [register, Registration.placements]

theorem exists_registerFrom_iff {r : Router} {position : Nat} {cs : List Registration} :
    (∃ r', r.registerFrom position cs = .ok r') ↔
      ∀ c ∈ cs, ∀ p ∈ c.placements, ∃ e, p.Makes e := by
  induction cs generalizing r position with
  | nil => simp [registerFrom]
  | cons c cs ih =>
    rw [List.forall_mem_cons, ← exists_register_iff (r := r), registerFrom]
    cases hc : r.register c with
    | error fault => simp
    | ok next     => simp [ih]

/-! ### Orders that do not matter -/

/-- Take a list of registrations that succeeds.

Any other mixture of the same registrations of each kind that succeeds dispatches every request in
the same way.

Two registrations of handlers, with none of handlers between them, can be exchanged if they are
apart: that succeeds as well and changes no answer. The same goes for placements within what is
mounted. -/
theorem dispatch_reordered {cs : List Registration} {r : Router}
    (hr : empty.registerAll cs = .ok r) :
    (∀ cs' r', empty.registerAll cs' = .ok r' → Registration.SameByKind cs cs' →
      ∀ request, r.dispatch request = r'.dispatch request) ∧
    (∀ before c between d after, cs = before ++ c :: (between ++ d :: after) →
      c.Apart d → (∀ b ∈ between, b.IsAside) →
      ∃ r', empty.registerAll (before ++ d :: (between ++ c :: after)) = .ok r' ∧
        ∀ request, (r.dispatch request).outcome = (r'.dispatch request).outcome ∧
          (r.dispatch request).response = (r'.dispatch request).response) ∧
    ∀ cs' r', empty.registerAll cs' = .ok r' → (History.of cs).Exchanged (History.of cs') →
      ∀ request, (r.dispatch request).outcome = (r'.dispatch request).outcome ∧
        (r.dispatch request).response = (r'.dispatch request).response := by
  have hl := registerAll_laysOut hr
  refine ⟨?mixed, ?registrations, ?placements⟩
  case mixed =>
    intro cs' r' hr' hsame request
    rw [History.of_eq_of_sameByKind hsame] at hl
    rw [hl.unique (registerAll_laysOut hr')]
  case registrations =>
    rintro before c between d after rfl hapart hbetween
    have hmakes := exists_registerFrom_iff.mp ⟨r, hr⟩
    obtain ⟨r', hr'⟩ :
        ∃ r', empty.registerAll (before ++ d :: (between ++ c :: after)) = .ok r' := by
      refine exists_registerFrom_iff.mpr fun b hb => hmakes b ?_
      simp only [List.mem_append, List.mem_cons] at hb ⊢
      tauto
    exact ⟨r', hr', dispatch_of_exchanged (hapart.exchanged hbetween) hl (registerAll_laysOut hr')⟩
  case placements =>
    intro cs' r' hr' hx
    exact dispatch_of_exchanged hx hl (registerAll_laysOut hr')

/-- Handlers for one path under two methods, with static content first, between or last. -/
theorem dispatch_reordered_two_methods :
    let greet : Registration :=
      .on .get "/:who" (.positional [.text] fun who => .payload (.html who.1))
    let save : Registration := .on .post "/hello" (.positional [] fun _ => .error "mute")
    let site : Registration :=
      .assets ⟨fun _ => .finished none, fun _ => .finished (.ok (.html "page"))⟩
    ∃ r r₁ r₂, empty.registerAll [greet, site, save] = .ok r ∧
      empty.registerAll [site, greet, save] = .ok r₁ ∧
      empty.registerAll [save, site, greet] = .ok r₂ ∧
      ∀ request, r.dispatch request = r₁.dispatch request ∧
        (r.dispatch request).response = (r₂.dispatch request).response := by
  intro greet save site
  obtain ⟨r, hr⟩ : ∃ r, empty.registerAll [greet, site, save] = .ok r := ⟨_, rfl⟩
  obtain ⟨r₁, hr₁⟩ : ∃ r, empty.registerAll [site, greet, save] = .ok r := ⟨_, rfl⟩
  have hsame : Registration.SameByKind [greet, site, save] [site, greet, save] := by
    intro kind
    cases kind <;> rfl
  have hapart : greet.Apart save := by
    refine ⟨rfl, rfl, fun p hp q hq => ?_⟩
    cases List.mem_singleton.mp hp
    cases List.mem_singleton.mp hq
    exact .inl (by decide)
  obtain ⟨hmixed, hexchanged, -⟩ := dispatch_reordered hr
  obtain ⟨r₂, hr₂, halike⟩ := hexchanged [] greet [site] save [] rfl hapart
    (by simp [Registration.IsAside, Registration.kind?, site])
  exact ⟨r, r₁, r₂, hr, hr₁, hr₂, fun request => ⟨hmixed _ _ hr₁ hsame request, (halike request).2⟩⟩

end Router

end Signpost
