import Signpost.Proofs.Binding.Positional
import Signpost.Proofs.Dispatch.Scan
import Signpost.Proofs.Pattern.Captures
import Signpost.Proofs.Router.History

/-!
# Handlers get what they take

The checks of `Endpoint.make` hold of every endpoint of a router, however it was put there, and a
match yields as many texts as the pattern has placeholders. So a handler that is selected never
misses a text, and a record is read from posted forms only. `Router.selected_fits` says so for every
router that registrations made and every request.
-/

namespace Signpost

/-! ### Binding -/

theorem Handler.readsForm_iff {handler : Handler} :
    handler.readsForm = true ↔ ∃ read, handler = .form read := by
  cases handler <;> simp [readsForm]

theorem Handler.call_ne_missing {handler : Handler} {texts : List String}
    (h : handler.arity ≤ texts.length) (request : Request) (index : Nat) :
    handler.call request texts ≠ .error (.param (.missing index)) := by
  cases handler with
  | positional kinds run =>
    intro hcall
    obtain ⟨cause, ⟨i, -, hfault⟩, hcause⟩ := call_positional_eq_error_iff.mp hcall
    cases hcause
    cases hfault with
    | missing hi htext => exact absurd (Nat.lt_of_lt_of_le hi h) (by simpa using htext)
  | request run => simp [call, bindTo, map_eq_error_iff]
  | pairs run   => simp [call, bindTo, map_eq_error_iff]
  | form read   => simp [call, bindTo, map_eq_error_iff, mapError_eq_error_iff]

/-! ### Endpoints of a router -/

/-- The handler takes what the pattern captures, and reads a record only if it is posted. -/
structure Endpoint.IsSound (e : Endpoint) : Prop where
  arity : e.handler.arity = e.pattern.arity
  posted : ∀ read, e.handler = .form read → e.method = .post

theorem Placement.Makes.isSound {p : Placement} {e : Endpoint} (h : p.Makes e) : e.IsSound := by
  obtain ⟨pattern, -, harity, hform, rfl⟩ := Endpoint.make_eq_ok_iff.mp h
  exact ⟨harity.symm, fun read hread => hform (Handler.readsForm_iff.mpr ⟨read, hread⟩)⟩

namespace Router

variable {r : Router} {request : Request}

theorem isSound_of_registerAll {cs : List Registration} (hr : empty.registerAll cs = .ok r)
    {e : Endpoint} (he : .endpoint e ∈ r.routes) : e.IsSound := by
  obtain ⟨p, -, hmakes⟩ := (endpoint_mem_routes_iff (registerAll_laysOut hr)).mp he
  exact hmakes.isSound

/-- A selected endpoint is a route at its index that captured the texts, under its own method. -/
theorem select_eq_endpoint {index : Nat} {e : Endpoint} {texts : List String}
    (h : r.select request = .endpoint index e texts) :
    r.routes[index]? = some (.endpoint e) ∧
      e.pattern.captures request.path request.query = some texts ∧ request.method = e.method := by
  have hscan := r.select_scanned request
  rw [h] at hscan
  cases hscan with
  | endpoint hr hb he => exact ⟨by simp [hr], Endpoint.offer_eq_captured_iff.mp he⟩

theorem select_of_handler_mem {index : Nat} (hc : .handler index ∈ (r.dispatch request).calls) :
    ∃ e texts, r.select request = .endpoint index e texts := by
  rcases mem_calls_dispatch hc with ⟨i, hi⟩ | hc
  · exact absurd hi (by simp)
  · rcases mem_calls_answer hc with ⟨i, e, texts, hselect, hi⟩ | ⟨i, s, asset, -, hi⟩
    · cases hi
      exact ⟨e, texts, hselect⟩
    · exact absurd hi (by simp)

/-- All endpoints of a router that registrations made are sound. So whatever the request is, the
selected handler is offered as many texts as it takes and misses none, it reads a record only from a
request that posts one, and no other handler is called. -/
theorem selected_fits {cs : List Registration} (hr : empty.registerAll cs = .ok r) :
    (∀ e, .endpoint e ∈ r.routes → e.IsSound) ∧
      (∀ request index e texts, r.select request = .endpoint index e texts →
        .endpoint e ∈ r.routes ∧ texts.length = e.handler.arity ∧
          (∀ i, e.handler.call request texts ≠ .error (.param (.missing i))) ∧
          ∀ read, e.handler = .form read → request.method = .post) ∧
      ∀ request index, .handler index ∈ (r.dispatch request).calls →
        ∃ e texts, r.select request = .endpoint index e texts := by
  have hsound : ∀ e, .endpoint e ∈ r.routes → e.IsSound := fun e he => isSound_of_registerAll hr he
  refine ⟨hsound, ?_, fun request index hc => select_of_handler_mem hc⟩
  intro request index e texts hselect
  obtain ⟨hroute, hcaptures, hmethod⟩ := select_eq_endpoint hselect
  have hmem : .endpoint e ∈ r.routes := List.mem_of_getElem? hroute
  have hlength : texts.length = e.handler.arity :=
    (Pattern.length_of_captures hcaptures).trans (hsound e hmem).arity.symm
  refine ⟨hmem, hlength, ?_, ?_⟩
  · exact Handler.call_ne_missing (Nat.le_of_eq hlength.symm) request
  · exact fun read hread => hmethod.trans ((hsound e hmem).posted read hread)

/-- A mount point brings a placeholder of its own, and the query one more. -/
theorem selected_fits_mounted_placeholder :
    let closed : Handler := .positional [.text] fun _ => .error "closed"
    let mail : Handler := .positional [.text, .bool] fun args => .payload (.html args.1)
    let login : Handler := .form fun _ => .ok fun _ => .payload (.html "welcome")
    let cs : List Registration :=
      [.on .get "/:user/mail" closed, .reset, .on .post "/:user/mail" closed,
        .mount "/:user" [⟨.get, ["/mail?unread=:flag"], mail⟩], .on .post "/login" login]
    let request : Request :=
      { method := .get, path := "/ann/mail", query := .ofUrlencoded (Utf8.ofString "unread=yes") }
    ∃ r e, empty.registerAll cs = .ok r ∧ r.select request = .endpoint 1 e ["ann", "yes"] ∧
      e.handler.arity = 2 ∧ e.IsSound := by
  intro closed mail login cs request
  let e : Endpoint :=
    ⟨.get, ⟨"/:user/mail?unread=:flag", [.literal "", .placeholder "user", .literal "mail"],
      [⟨"unread", "flag"⟩]⟩, mail⟩
  let before : Endpoint := ⟨.post, ⟨"/login", [.literal "", .literal "login"], []⟩, login⟩
  let after : Endpoint :=
    ⟨.post, ⟨"/:user/mail", [.literal "", .placeholder "user", .literal "mail"], []⟩, closed⟩
  let r : Router := { routes := [.endpoint before, .endpoint e, .endpoint after] }
  have hr : empty.registerAll cs = .ok r := rfl
  have hbefore : before.offer request = .declined := by decide +kernel
  have he : e.offer request = .captured ["ann", "yes"] := by decide +kernel
  have hpasses : ∀ q ∈ [Route.endpoint before], q.Passes request :=
    List.forall_mem_singleton.mpr (.inl (congrArg Attempt.finished hbefore))
  have hselect : r.select request = .endpoint 1 e ["ann", "yes"] :=
    select_of_captured rfl hpasses he
  obtain ⟨hsound, hfits, -⟩ := selected_fits hr
  obtain ⟨hmem, hlength, -, -⟩ := hfits request 1 e _ hselect
  exact ⟨r, e, hr, hselect, hlength.symm, hsound e hmem⟩

end Router

end Signpost
