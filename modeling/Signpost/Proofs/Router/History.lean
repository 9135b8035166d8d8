import Signpost.Proofs.Traversal
import Signpost.Router.Registration

/-!
# Histories

What registrations have put into a router, sorted by kind and each kind in the order in which it was
registered. `registerAll_laysOut` is the invariant of registration: in a router that registrations
made, the endpoints stand in front with the latest first, and static content behind them with the
earliest first, in whatever order the kinds were mixed.
-/

namespace Signpost

/-! ### Endpoints -/

/-- An endpoint is made of a pattern that compiles, with a handler that takes as many texts as the
pattern captures and reads a record only if it is posted. -/
theorem Endpoint.make_eq_ok_iff {method : Method} {raw : String} {handler : Handler}
    {e : Endpoint} :
    Endpoint.make method raw handler = .ok e ↔
      ∃ pattern, Pattern.compile raw = .ok pattern ∧ pattern.arity = handler.arity ∧
        (handler.readsForm = true → method = .post) ∧ e = ⟨method, pattern, handler⟩ := by
  unfold Endpoint.make
  cases Pattern.compile raw with
  | error fault => simp
  | ok pattern =>
    by_cases harity : pattern.arity = handler.arity
    · by_cases hform : handler.readsForm = true ∧ method ≠ .post
      · simp [harity, hform]
      · simp only [ne_eq, harity, not_true_eq_false, if_false, if_neg hform, Except.ok.injEq,
          exists_eq_left', true_and]
        constructor
        · rintro rfl
          exact ⟨fun hreads => Classical.not_not.mp fun hm => hform ⟨hreads, hm⟩, rfl⟩
        · rintro ⟨-, rfl⟩
          rfl
    · simp [harity]

/-! ### Placements -/

/-- A handler under one method and one pattern text. -/
structure Placement where
  method : Method
  pattern : String
  handler : Handler

/-- The placement makes the endpoint. -/
def Placement.Makes (p : Placement) (e : Endpoint) : Prop :=
  Endpoint.make p.method p.pattern p.handler = .ok e

/-- What becomes of the placement: an endpoint or a fault. -/
def Placement.made (p : Placement) : Except Endpoint.Fault Endpoint :=
  Endpoint.make p.method p.pattern p.handler

/-- The placements of an entry that is mounted, in the order of its patterns. -/
def Entry.placements (mountPoint : String) (e : Entry) : List Placement :=
  e.patterns.map fun p => ⟨e.method, Pattern.mounted mountPoint p, e.handler⟩

/-- What has been registered since the last reset, the earliest of each kind first. -/
structure History where
  placements : List Placement := []
  resolvers : List Resolver := []
  filters : List Filter := []

namespace History

/-- The history with one more registration. -/
def add (h : History) : Registration → History
  | .on method pattern handler =>
    { h with placements := h.placements ++ [⟨method, pattern, handler⟩] }
  | .mount mountPoint entries =>
    { h with placements := h.placements ++ entries.flatMap (Entry.placements mountPoint) }
  | .assets resolver           => { h with resolvers := h.resolvers ++ [resolver] }
  | .filter filter             => { h with filters := h.filters ++ [filter] }
  | .reset                     => {}

/-- The history of a list of registrations. -/
def of (cs : List Registration) : History :=
  cs.foldl add {}

/-- The router holds what the history says, in the order of priority. -/
def LaysOut (h : History) (r : Router) : Prop :=
  ∃ es : List Endpoint, List.Forall₂ Placement.Makes h.placements es ∧
    r.routes = es.reverse.map .endpoint ++ h.resolvers.map .assets ∧ r.filters = h.filters

end History

namespace Router

/-! ### One registration -/

/-- Mounting makes what the placements of its entries become. -/
theorem mountedEndpoints_eq_mapM (mountPoint : String) (entries : List Entry) :
    mountedEndpoints mountPoint entries =
      (entries.flatMap (Entry.placements mountPoint)).mapM Placement.made := by
  have hplacements : entries.flatMap (Entry.placements mountPoint) =
      (entries.flatMap fun e => e.patterns.map fun p => (e, p)).map fun ep =>
        (⟨ep.1.method, Pattern.mounted mountPoint ep.2, ep.1.handler⟩ : Placement) := by
    rw [List.map_flatMap]
    simp only [List.map_map]
    rfl
  rw [mountedEndpoints, hplacements, List.mapM_map]
  rfl

/-- Mounting checks the placements of its entries one after another. -/
theorem mountedEndpoints_eq_ok_iff {mountPoint : String} {entries : List Entry}
    {es : List Endpoint} :
    mountedEndpoints mountPoint entries = .ok es ↔
      List.Forall₂ Placement.Makes (entries.flatMap (Entry.placements mountPoint)) es := by
  rw [mountedEndpoints_eq_mapM, mapM_eq_ok_iff]
  rfl

theorem foldl_prepend (r : Router) (es : List Endpoint) :
    es.foldl (fun r e => r.prepend (.endpoint e)) r =
      { r with routes := es.reverse.map .endpoint ++ r.routes } := by
  induction es generalizing r with
  | nil => rfl
  | cons e es ih =>
    rw [List.foldl_cons, ih]
    simp [prepend]

variable {h : History} {r r' : Router}

theorem register_laysOut {c : Registration} (hl : h.LaysOut r) (hr : r.register c = .ok r') :
    (h.add c).LaysOut r' := by
  obtain ⟨es, hes, hroutes, hfilters⟩ := hl
  cases c with
  | on method pattern handler =>
    obtain ⟨e, he, hr⟩ := bind_eq_ok_iff.mp hr
    cases hr
    have hmakes : List.Forall₂ Placement.Makes [⟨method, pattern, handler⟩] [e] :=
      .cons he .nil
    refine ⟨es ++ [e], List.rel_append hes hmakes, ?_, hfilters⟩
    simp [prepend, hroutes, History.add]
  | mount mountPoint entries =>
    obtain ⟨added, hadded, hr⟩ := bind_eq_ok_iff.mp hr
    rw [foldl_prepend] at hr
    cases hr
    have hmakes := mountedEndpoints_eq_ok_iff.mp hadded
    refine ⟨es ++ added, List.rel_append hes hmakes, ?_, hfilters⟩
    simp [hroutes, History.add]
  | assets resolver =>
    cases hr
    refine ⟨es, hes, ?_, hfilters⟩
    simp [assets, append, hroutes, History.add]
  | filter f =>
    cases hr
    refine ⟨es, hes, hroutes, ?_⟩
    simp [filter, hfilters, History.add]
  | reset =>
    cases hr
    exact ⟨[], .nil, rfl, rfl⟩

/-! ### Any number of registrations -/

theorem registerFrom_laysOut {cs : List Registration} {position : Nat} (hl : h.LaysOut r)
    (hr : r.registerFrom position cs = .ok r') : (cs.foldl History.add h).LaysOut r' := by
  induction cs generalizing h r position with
  | nil =>
    cases hr
    exact hl
  | cons c cs ih =>
    rw [registerFrom] at hr
    cases hc : r.register c with
    | error e => simp [hc] at hr
    | ok next =>
      simp only [hc] at hr
      exact ih (register_laysOut hl hc) hr

theorem registerAll_laysOut {cs : List Registration} (hr : empty.registerAll cs = .ok r) :
    (History.of cs).LaysOut r :=
  registerFrom_laysOut ⟨[], .nil, rfl, rfl⟩ hr

/-! ### Where the routes stand -/

/-- A placement stands behind exactly those that came after it. -/
theorem routes_of_placement {older newer : List Placement} {p : Placement} (hl : h.LaysOut r)
    (hp : h.placements = older ++ p :: newer) :
    ∃ before e after, r.routes = before ++ .endpoint e :: after ∧ p.Makes e ∧
      before.length = newer.length ∧ ∀ q ∈ before, ∃ p' ∈ newer, ∃ e', q = .endpoint e' ∧
        p'.Makes e' := by
  obtain ⟨es, hes, hroutes, -⟩ := hl
  rw [hp] at hes
  obtain ⟨es₁, e, es₂, rfl, -, he, hes₂⟩ := forall₂_append_cons_left hes
  refine ⟨es₂.reverse.map .endpoint, e, es₁.reverse.map .endpoint ++ h.resolvers.map .assets,
    ?_, he, ?_, ?_⟩
  · simp [hroutes]
  · simp [hes₂.length_eq]
  · intro q hq
    obtain ⟨e', he', rfl⟩ := List.mem_map.mp hq
    obtain ⟨p', hp', hmakes⟩ := forall₂_exists_left hes₂ (List.mem_reverse.mp he')
    exact ⟨p', hp', e', rfl, hmakes⟩

/-- Static content stands behind all placements and behind exactly what came before it. -/
theorem routes_of_resolver {older newer : List Resolver} {s : Resolver} (hl : h.LaysOut r)
    (hs : h.resolvers = older ++ s :: newer) :
    ∃ before after, r.routes = before ++ .assets s :: after ∧
      before.length = h.placements.length + older.length ∧
      ∀ q ∈ before, (∃ p ∈ h.placements, ∃ e, q = .endpoint e ∧ p.Makes e) ∨
        ∃ s' ∈ older, q = .assets s' := by
  obtain ⟨es, hes, hroutes, -⟩ := hl
  refine ⟨es.reverse.map .endpoint ++ older.map .assets, newer.map .assets, ?_, ?_, ?_⟩
  · simp [hroutes, hs]
  · simp [hes.length_eq]
  · intro q hq
    rcases List.mem_append.mp hq with hq | hq
    · obtain ⟨e, he, rfl⟩ := List.mem_map.mp hq
      obtain ⟨p, hp, hmakes⟩ := forall₂_exists_left hes (List.mem_reverse.mp he)
      exact .inl ⟨p, hp, e, rfl, hmakes⟩
    · obtain ⟨s', hs', rfl⟩ := List.mem_map.mp hq
      exact .inr ⟨s', hs', rfl⟩

theorem endpoint_mem_routes_iff {e : Endpoint} (hl : h.LaysOut r) :
    .endpoint e ∈ r.routes ↔ ∃ p ∈ h.placements, p.Makes e := by
  obtain ⟨es, hes, hroutes, -⟩ := hl
  have hmem : .endpoint e ∈ r.routes ↔ e ∈ es := by simp [hroutes]
  rw [hmem]
  constructor
  · exact forall₂_exists_left hes
  · rintro ⟨p, hp, hmakes⟩
    obtain ⟨older, newer, hsplit⟩ := List.append_of_mem hp
    rw [hsplit] at hes
    obtain ⟨es₁, e', es₂, rfl, -, he', -⟩ := forall₂_append_cons_left hes
    cases he'.symm.trans hmakes
    simp

theorem assets_mem_routes_iff {s : Resolver} (hl : h.LaysOut r) :
    .assets s ∈ r.routes ↔ s ∈ h.resolvers := by
  obtain ⟨es, -, hroutes, -⟩ := hl
  simp [hroutes]

end Router

end Signpost
