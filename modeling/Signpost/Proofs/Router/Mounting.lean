import Signpost.Dispatch.Basic
import Signpost.Proofs.Router.History

/-!
# Mounting

Mounted entries are checked before the first of them is added, and endpoints that are registered one
by one are each checked when their turn comes. `Router.mount_eq_onEach` says that nobody can tell:
both ways end with the same router, or with the same fault, which is that of the first placement
that makes no endpoint.
-/

namespace Signpost

namespace Router

/-! ### One by one -/

/-- Adds the endpoints of entries one by one, for each entry in the order of its patterns. -/
def onEach (r : Router) (mountPoint : String) (entries : List Entry) :
    Except Endpoint.Fault Router :=
  entries.foldlM (fun r e => e.patterns.foldlM
    (fun r p => r.on e.method (Pattern.mounted mountPoint p) e.handler) r) r

/-- Adds the endpoint of a placement before all routes. -/
def place (r : Router) (p : Placement) : Except Endpoint.Fault Router :=
  r.on p.method p.pattern p.handler

/-- The router with endpoints that are tried before all other routes, the last of them first. -/
def prependAll (r : Router) (es : List Endpoint) : Router :=
  es.foldl (fun r e => r.prepend (.endpoint e)) r

/-- The patterns of an entry one by one are its placements one by one. -/
theorem foldlM_patterns (r : Router) (mountPoint : String) (e : Entry) :
    e.patterns.foldlM (fun r p => r.on e.method (Pattern.mounted mountPoint p) e.handler) r =
      (e.placements mountPoint).foldlM place r := by
  rw [Entry.placements, List.foldlM_map]
  rfl

/-- The loop over entries and the loop over their patterns are one over all placements. -/
theorem onEach_eq_foldlM (r : Router) (mountPoint : String) (entries : List Entry) :
    r.onEach mountPoint entries =
      (entries.flatMap (Entry.placements mountPoint)).foldlM place r := by
  simp only [onEach, foldlM_patterns]
  induction entries generalizing r with
  | nil => rfl
  | cons e entries ih =>
    rw [List.foldlM_cons, List.flatMap_cons, List.foldlM_append]
    exact bind_congr ih

/-- Checking each placement when its turn comes is checking all of them first. -/
theorem foldlM_place (r : Router) (ps : List Placement) :
    ps.foldlM place r = r.prependAll <$> ps.mapM Placement.made := by
  induction ps generalizing r with
  | nil => rfl
  | cons p ps ih =>
    rw [List.foldlM_cons, List.mapM_cons, place, on]
    simp only [ih, map_bind, bind_assoc, pure_bind, map_pure]
    rfl

variable {mountPoint : String} {entries : List Entry}

/-! ### All at once -/

theorem mount_eq (r : Router) (mountPoint : String) (entries : List Entry) :
    r.mount mountPoint entries =
      r.prependAll <$> (entries.flatMap (Entry.placements mountPoint)).mapM Placement.made := by
  rw [mount, mountedEndpoints_eq_mapM, bind_pure_comp]
  rfl

theorem mount_eq_ok_iff {r r' : Router} :
    r.mount mountPoint entries = .ok r' ↔
      ∃ es, List.Forall₂ Placement.Makes (entries.flatMap (Entry.placements mountPoint)) es ∧
        r'.routes = es.reverse.map .endpoint ++ r.routes ∧ r'.filters = r.filters := by
  rw [mount, bind_eq_ok_iff]
  simp only [mountedEndpoints_eq_ok_iff, foldl_prepend]
  constructor
  · rintro ⟨es, hes, hr⟩
    cases hr
    exact ⟨es, hes, rfl, rfl⟩
  · rintro ⟨es, hes, hroutes, hfilters⟩
    refine ⟨es, hes, ?_⟩
    rw [← hroutes, ← hfilters]
    rfl

theorem mount_eq_error_iff {r : Router} {fault : Endpoint.Fault} :
    r.mount mountPoint entries = .error fault ↔
      ∃ before p after, entries.flatMap (Entry.placements mountPoint) = before ++ p :: after ∧
        (∀ q ∈ before, ∃ e, q.Makes e) ∧ p.made = .error fault := by
  have hfails : r.mount mountPoint entries = .error fault ↔
      (entries.flatMap (Entry.placements mountPoint)).mapM Placement.made = .error fault := by
    rw [mount_eq]
    cases (entries.flatMap (Entry.placements mountPoint)).mapM Placement.made <;>
      simp [Functor.map, Except.map]
  rw [hfails, mapM_eq_error_iff]
  rfl

/-- Mounting entries is registering their endpoints one by one: the same router comes of it, so that
every request has the same answer, or the same fault. It succeeds exactly if every placement makes
an endpoint, and those stand before the routes there were, the last one first. A fault is that of
the first placement that makes none, whatever those behind it are. -/
theorem mount_eq_onEach (r : Router) (mountPoint : String) (entries : List Entry) :
    r.mount mountPoint entries = r.onEach mountPoint entries ∧
      (∀ r', r.mount mountPoint entries = .ok r' ↔
        ∃ es, List.Forall₂ Placement.Makes (entries.flatMap (Entry.placements mountPoint)) es ∧
          r'.routes = es.reverse.map .endpoint ++ r.routes ∧ r'.filters = r.filters) ∧
      (∀ r₁ r₂, r.mount mountPoint entries = .ok r₁ → r.onEach mountPoint entries = .ok r₂ →
        ∀ request, r₁.dispatch request = r₂.dispatch request) ∧
      ∀ fault, r.mount mountPoint entries = .error fault ↔
        ∃ before p after, entries.flatMap (Entry.placements mountPoint) = before ++ p :: after ∧
          (∀ q ∈ before, ∃ e, q.Makes e) ∧ p.made = .error fault := by
  have heq : r.mount mountPoint entries = r.onEach mountPoint entries := by
    rw [mount_eq, onEach_eq_foldlM, foldlM_place]
  refine ⟨heq, fun _ => mount_eq_ok_iff, ?_, fun _ => mount_eq_error_iff⟩
  intro r₁ r₂ h₁ h₂ request
  cases h₁.symm.trans (heq.trans h₂)
  rfl

-- The second pattern is at fault, and neither the third nor the next entry is looked at.
example :
    let mute : Handler := .positional [] fun _ => .error "mute"
    empty.mount "/say/" [⟨.get, ["/hello", "/:", "/:who"], mute⟩, ⟨.get, ["?"], mute⟩] =
      .error (.pattern "/say/:" .namelessPlaceholder) := rfl

end Router

end Signpost
