import Signpost.Proofs.Dispatch.Observation

/-!
# Failures and what is told of them

A router gives up on a request if it answers with its own page for failures. It does so when
something crashes or ends with an error, and when the payload that it is given has a stream that
breaks. An observer is told of the former as a failure, and a stream that crashes is among them. Of
the latter it is told who gave the payload, because that is settled before the stream is read, and
only the status shows that it broke: `Dispatcher.failures_reported`.
-/

namespace Signpost

variable {request : Request} {payload : Payload}

namespace Router

variable {r : Router}

/-! ### Payloads that are given -/

/-- A filter or the selected route answers with the payload, and its stream does not crash. -/
def Gives (r : Router) (request : Request) (payload : Payload) : Prop :=
  r.Answers request payload ∨ r.RunsTo request (.handled payload)

/-- The answer is the router's own page for failures and no payload's: one that was given has a
stream that breaks. -/
structure GivesUp (r : Router) (request : Request) : Prop where
  response : (r.dispatch request).response = .serverError
  breaks : ∀ payload, r.Gives request payload → payload.Breaks

theorem Gives.ends (h : r.Gives request payload) :
    r.Ends request (.filtered payload) ∨ r.Ends request (.handled payload) := by
  rcases h with h | h
  · exact .inl (Cause.answered h).ends
  · exact .inr (Cause.ran h).ends

theorem Gives.unique {payload' : Payload} (h : r.Gives request payload)
    (h' : r.Gives request payload') : payload = payload' := by
  rcases h.ends with h | h <;> rcases h'.ends with h' | h' <;> cases h.unique h' <;> rfl

theorem Gives.response_eq (h : r.Gives request payload) :
    (r.dispatch request).response = .ofPayload payload := by
  rcases h.ends with h | h
  · exact h.dispatch_eq.2
  · exact h.dispatch_eq.2

/-! ### Giving up -/

theorem GivesUp.of_breaks (h : r.Gives request payload) (hbreaks : payload.Breaks) :
    r.GivesUp request where
  response := h.response_eq.trans hbreaks.ofPayload_eq
  breaks _ h' := h.unique h' ▸ hbreaks

/-- A dispatch that failed was given no payload. -/
theorem not_gives_of_failed (h : (r.dispatch request).outcome = .failed) :
    ¬ r.Gives request payload := by
  intro hgives
  rcases hgives.ends with hends | hends
  · cases hends.dispatch_eq.1.symm.trans h
  · cases hends.dispatch_eq.1.symm.trans h

theorem GivesUp.of_failed (h : (r.dispatch request).outcome = .failed) : r.GivesUp request where
  response := by
    obtain ⟨ending, hends⟩ := r.exists_ends request
    rw [hends.dispatch_eq.1] at h
    rw [hends.dispatch_eq.2]
    cases ending with
    | handlerError | loadError | crashed => rfl
    | _                                  => cases h
  breaks _ hgives := absurd hgives (not_gives_of_failed h)

/-- What is given up without a payload is a failure. -/
theorem GivesUp.failed (h : r.GivesUp request) (hnone : ¬ ∃ payload, r.Gives request payload) :
    (r.dispatch request).outcome = .failed := by
  obtain ⟨hbadRequest, -, hmethod, hnotFound⟩ := r.status_of_outcome request
  rw [h.response] at hbadRequest hmethod hnotFound
  cases houtcome : (r.dispatch request).outcome with
  | failed => rfl
  | filtered =>
    obtain ⟨payload, hanswers⟩ := outcome_eq_filtered_iff.mp houtcome
    exact absurd ⟨payload, .inl hanswers⟩ hnone
  | handled =>
    obtain ⟨payload, hruns⟩ := outcome_eq_handled_iff.mp houtcome
    exact absurd ⟨payload, .inr hruns⟩ hnone
  | badRequest       => exact absurd (hbadRequest houtcome) (by decide)
  | methodNotAllowed => exact absurd (hmethod houtcome) (by decide)
  | notFound         => exact absurd (hnotFound houtcome) (by decide)

end Router

/-! ### What is told -/

/-- Of a request that the router gives up on, the observer is told the status `500`, and that it
failed unless a payload was given. A payload whose stream breaks is told of as any other of a filter
or of a route. Nothing else is told of as a failure. -/
theorem Dispatcher.failures_reported (d : Dispatcher) (request : Request) :
    ∃ event, (d.dispatch request).2.events = d.events ++ [event] ∧
      (d.router.GivesUp request → (d.dispatch request).1 = .serverError ∧ event.status.code = 500 ∧
        (event.outcome = .failed ↔ ¬ ∃ payload, d.router.Gives request payload)) ∧
      (event.outcome = .failed → d.router.GivesUp request) ∧
      (∀ payload, d.router.Answers request payload → payload.Breaks →
        d.router.GivesUp request ∧ event.outcome = .filtered) ∧
      ∀ payload, d.router.RunsTo request (.handled payload) → payload.Breaks →
        d.router.GivesUp request ∧ event.outcome = .handled := by
  refine ⟨(d.router.dispatch request).event request, rfl, ?_, Router.GivesUp.of_failed, ?_, ?_⟩
  · intro h
    refine ⟨h.response, congrArg (fun response : Response => response.status.code) h.response, ?_⟩
    constructor
    · rintro hfailed ⟨payload, hgives⟩
      exact Router.not_gives_of_failed hfailed hgives
    · exact h.failed
  · intro payload h hbreaks
    exact ⟨.of_breaks (.inl h) hbreaks, Router.outcome_eq_filtered_iff.mpr ⟨payload, h⟩⟩
  · intro payload h hbreaks
    exact ⟨.of_breaks (.inr h) hbreaks, Router.outcome_eq_handled_iff.mpr ⟨payload, h⟩⟩

/-- A handler answers with a stream that breaks. The router gives up, and the observer is told that
the request was handled. -/
theorem Dispatcher.broken_stream_reported :
    let torn : Payload := .ofStream "text/plain" { chunks := [[0x78]], ending := .failed }
    let file : Pattern := ⟨"/file", [.literal "", .literal "file"], []⟩
    let e : Endpoint := ⟨.get, file, .request fun _ => .payload torn⟩
    let d : Dispatcher := { router := { routes := [.endpoint e] } }
    let request : Request := { method := .get, path := "/file" }
    d.router.GivesUp request ∧
      ∃ event, (d.dispatch request).2.events = [event] ∧ event.outcome = .handled := by
  intro torn file e d request
  have hcaptures : file.captures request.path request.query = some [] := by decide +kernel
  have hselects : d.router.Selects request (.endpoint e) :=
    ⟨⟨by simp [d, Router.Declines], [], [], rfl, by simp⟩, ⟨[], hcaptures⟩, rfl⟩
  have hends : (Selection.endpoint 0 e []).Ends request (.handled torn) :=
    .handled rfl (by simp [Payload.Crashes, torn, Payload.ofStream])
  have hruns : d.router.RunsTo request (.handled torn) := ⟨_, hselects, .endpoint hcaptures hends⟩
  exact ⟨.of_breaks (.inr hruns) ⟨_, rfl⟩, _, rfl, Router.outcome_eq_handled_iff.mpr ⟨_, hruns⟩⟩

end Signpost
