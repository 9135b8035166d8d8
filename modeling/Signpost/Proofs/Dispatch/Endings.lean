import Signpost.Proofs.Dispatch.Scan

/-!
# Endings

How a dispatch ends, told by what the code that is not the router's own does: `Router.Ends` is a
relation between a router, a request and an `Ending`, and every dispatch has an ending that decides
its outcome and its response. An ending that is a failure carries what went wrong, and
`Router.failure_is_silent` says that none of it is in the response: there is one answer to whatever
does not bind and one to whatever fails.
-/

namespace Signpost

/-! ### Payloads whose stream does not end well -/

/-- The body is a stream that fails, after some bytes or at once. -/
def Payload.Breaks (p : Payload) : Prop :=
  ∃ chunks, p.body = .stream { chunks, ending := .failed }

/-- The body is a stream that crashes while it is read. -/
def Payload.Crashes (p : Payload) : Prop :=
  ∃ chunks, p.body = .stream { chunks, ending := .crashed }

theorem Payload.Breaks.ofPayload_eq {p : Payload} (h : p.Breaks) :
    Response.ofPayload p = .serverError := by
  obtain ⟨chunks, hbody⟩ := h
  rw [Response.ofPayload, Response.negotiate, hbody]
  rfl

theorem Payload.Crashes.caught_eq {p : Payload} (h : p.Crashes) (outcome : Outcome) :
    Answer.caught (Answer.ofPayload outcome p) = .failed := by
  obtain ⟨chunks, hbody⟩ := h
  rw [Answer.ofPayload, Response.negotiate, hbody]
  rfl

theorem Payload.caught_eq_of_not_crashes {p : Payload} (h : ¬ p.Crashes) (outcome : Outcome) :
    Answer.caught (Answer.ofPayload outcome p) = ⟨outcome, .ofPayload p⟩ := by
  have hread : ∃ found, Response.bodyBytes p.body = .finished found := by
    cases hp : p.body with
    | bytes bs => exact ⟨_, rfl⟩
    | json v   => exact ⟨_, rfl⟩
    | stream s =>
      obtain ⟨chunks, ending⟩ := s
      cases ending with
      | closed  => exact ⟨_, rfl⟩
      | failed  => exact ⟨_, rfl⟩
      | crashed => exact absurd ⟨chunks, hp⟩ h
  obtain ⟨found, hfound⟩ := hread
  rw [Answer.ofPayload, Response.ofPayload, Response.negotiate, hfound]
  rfl

/-! ### What can end a dispatch -/

/-- Code that may crash in a dispatch. -/
inductive Culprit
  | filter
  /-- A handler, when it is called or later on while it runs. -/
  | handler
  /-- Static content that was asked for a path. -/
  | locate
  /-- Static content that was asked for an asset. -/
  | load
  /-- The stream of a payload, while it is read. -/
  | stream
deriving DecidableEq, Repr

inductive Ending
  /-- A filter answered. -/
  | filtered (payload : Payload)
  /-- The selected route answered. -/
  | handled (payload : Payload)
  /-- The selected handler could not read what it takes. -/
  | unbound (fault : Handler.Fault)
  | handlerError (message : String)
  | loadError (fault : ReadFault)
  | crashed (culprit : Culprit)
  | wrongMethod
  | nothing

/-- What was selected ends in this way. -/
inductive Selection.Ends (request : Request) : Selection → Ending → Prop
  | handled {index : Nat} {e : Endpoint} {texts : List String} {payload : Payload}
      (h : e.handler.call request texts = .ok (.finished (.ok payload)))
      (hread : ¬ payload.Crashes) : Ends request (.endpoint index e texts) (.handled payload)
  | handledCrashed {index : Nat} {e : Endpoint} {texts : List String} {payload : Payload}
      (h : e.handler.call request texts = .ok (.finished (.ok payload)))
      (hread : payload.Crashes) : Ends request (.endpoint index e texts) (.crashed .stream)
  | unbound {index : Nat} {e : Endpoint} {texts : List String} {fault : Handler.Fault}
      (h : e.handler.call request texts = .error fault) :
      Ends request (.endpoint index e texts) (.unbound fault)
  | handlerError {index : Nat} {e : Endpoint} {texts : List String} {message : String}
      (h : e.handler.call request texts = .ok (.finished (.error message))) :
      Ends request (.endpoint index e texts) (.handlerError message)
  | handlerCrashed {index : Nat} {e : Endpoint} {texts : List String}
      (h : e.handler.call request texts = .ok .crashed) :
      Ends request (.endpoint index e texts) (.crashed .handler)
  | loaded {index : Nat} {s : Resolver} {asset : AssetPath} {payload : Payload}
      (h : s.load asset = .finished (.ok payload)) (hread : ¬ payload.Crashes) :
      Ends request (.asset index s asset) (.handled payload)
  | loadedCrashed {index : Nat} {s : Resolver} {asset : AssetPath} {payload : Payload}
      (h : s.load asset = .finished (.ok payload)) (hread : payload.Crashes) :
      Ends request (.asset index s asset) (.crashed .stream)
  | loadError {index : Nat} {s : Resolver} {asset : AssetPath} {fault : ReadFault}
      (h : s.load asset = .finished (.error fault)) :
      Ends request (.asset index s asset) (.loadError fault)
  | loadCrashed {index : Nat} {s : Resolver} {asset : AssetPath} (h : s.load asset = .crashed) :
      Ends request (.asset index s asset) (.crashed .load)
  | locateCrashed : Ends request .crashed (.crashed .locate)
  | wrongMethod   : Ends request .wrongMethod .wrongMethod
  | nothing       : Ends request .nothing .nothing

/-- A dispatch of the request ends in this way: the first filter that does not decline ends it, or
else what was selected. -/
inductive Router.Ends (r : Router) (request : Request) : Ending → Prop
  | filtered {before after : List Filter} {f : Filter} {payload : Payload}
      (hr : r.filters = before ++ f :: after) (hb : ∀ g ∈ before, g request = .finished none)
      (hf : f request = .finished (some payload)) (hread : ¬ payload.Crashes) :
      Ends r request (.filtered payload)
  | filteredCrashed {before after : List Filter} {f : Filter} {payload : Payload}
      (hr : r.filters = before ++ f :: after) (hb : ∀ g ∈ before, g request = .finished none)
      (hf : f request = .finished (some payload)) (hread : payload.Crashes) :
      Ends r request (.crashed .stream)
  | filterCrashed {before after : List Filter} {f : Filter}
      (hr : r.filters = before ++ f :: after) (hb : ∀ g ∈ before, g request = .finished none)
      (hf : f request = .crashed) : Ends r request (.crashed .filter)
  | selected {ending : Ending} (hd : ∀ g ∈ r.filters, g request = .finished none)
      (hs : (r.select request).Ends request ending) : Ends r request ending

/-! ### What an ending decides -/

namespace Ending

def outcome : Ending → Outcome
  | filtered _     => .filtered
  | handled _      => .handled
  | unbound _      => .badRequest
  | handlerError _ => .failed
  | loadError _    => .failed
  | crashed _      => .failed
  | wrongMethod    => .methodNotAllowed
  | nothing        => .notFound

def response : Ending → Response
  | filtered payload => .ofPayload payload
  | handled payload  => .ofPayload payload
  | unbound _        => .badRequest
  | handlerError _   => .serverError
  | loadError _      => .serverError
  | crashed _        => .serverError
  | wrongMethod      => .methodNotAllowed
  | nothing          => .notFound

end Ending

variable {request : Request} {ending : Ending}

theorem Selection.exists_ends (request : Request) (selection : Selection) :
    ∃ ending, selection.Ends request ending := by
  cases selection with
  | endpoint index e texts =>
    cases h : e.handler.call request texts with
    | error fault => exact ⟨_, .unbound h⟩
    | ok reply =>
      cases reply with
      | crashed => exact ⟨_, .handlerCrashed h⟩
      | finished result =>
        cases result with
        | error message => exact ⟨_, .handlerError h⟩
        | ok payload =>
          by_cases hread : payload.Crashes
          · exact ⟨_, .handledCrashed h hread⟩
          · exact ⟨_, .handled h hread⟩
  | asset index s asset =>
    cases h : s.load asset with
    | crashed => exact ⟨_, .loadCrashed h⟩
    | finished result =>
      cases result with
      | error fault => exact ⟨_, .loadError h⟩
      | ok payload =>
        by_cases hread : payload.Crashes
        · exact ⟨_, .loadedCrashed h hread⟩
        · exact ⟨_, .loaded h hread⟩
  | wrongMethod => exact ⟨_, .wrongMethod⟩
  | nothing     => exact ⟨_, .nothing⟩
  | crashed     => exact ⟨_, .locateCrashed⟩

theorem Selection.Ends.unique {selection : Selection} {ending' : Ending}
    (h : selection.Ends request ending) (h' : selection.Ends request ending') :
    ending = ending' := by
  cases h <;> cases h' <;> simp_all

theorem Selection.Ends.answer_eq {selection : Selection} (h : selection.Ends request ending) :
    Answer.caught (Router.answer request selection).value =
      ⟨ending.outcome, ending.response⟩ := by
  cases h with
  | handled h hread =>
    rw [Router.answer_of_call_eq_ok h]
    exact Payload.caught_eq_of_not_crashes hread .handled
  | handledCrashed h hread =>
    rw [Router.answer_of_call_eq_ok h]
    exact hread.caught_eq .handled
  | unbound h =>
    rw [Router.answer_of_call_eq_error h]
    rfl
  | handlerError h | handlerCrashed h =>
    rw [Router.answer_of_call_eq_ok h]
    rfl
  | loaded h hread =>
    rw [Router.answer_asset, h]
    exact Payload.caught_eq_of_not_crashes hread .handled
  | loadedCrashed h hread =>
    rw [Router.answer_asset, h]
    exact hread.caught_eq .handled
  | loadError h | loadCrashed h =>
    rw [Router.answer_asset, h]
    rfl
  | locateCrashed | wrongMethod | nothing => rfl

namespace Router

variable {r : Router}

theorem exists_ends (r : Router) (request : Request) : ∃ ending, r.Ends request ending := by
  rcases declined_or_stopped request r.filters with hd | ⟨before, f, after, hr, hb, hf⟩
  · obtain ⟨ending, hs⟩ := (r.select request).exists_ends request
    exact ⟨ending, .selected hd hs⟩
  · cases hending : f request with
    | crashed => exact ⟨_, .filterCrashed hr hb hending⟩
    | finished found =>
      cases found with
      | none         => exact absurd hending hf
      | some payload =>
        by_cases hread : payload.Crashes
        · exact ⟨_, .filteredCrashed hr hb hending hread⟩
        · exact ⟨_, .filtered hr hb hending hread⟩

/-- The answer of the filters is the ending, or else that of what was selected is. -/
theorem Ends.of_askFrom (h : r.Ends request ending) :
    match (askFrom request 0 r.filters).value with
    | .finished (some payload) =>
      (payload.Crashes → ending = .crashed .stream) ∧ (¬ payload.Crashes → ending = .filtered payload)
    | .crashed       => ending = .crashed .filter
    | .finished none => (r.select request).Ends request ending := by
  cases h with
  | filtered hr hb hf hread =>
    rw [hr, askFrom_of_stopped hb (by simp [hf]), hf]
    exact ⟨fun hcrash => absurd hcrash hread, fun _ => rfl⟩
  | filteredCrashed hr hb hf hread =>
    rw [hr, askFrom_of_stopped hb (by simp [hf]), hf]
    exact ⟨fun _ => rfl, fun hread' => absurd hread hread'⟩
  | filterCrashed hr hb hf => rw [hr, askFrom_of_stopped hb (by simp [hf]), hf]
  | selected hd hs =>
    have hask := askFrom_append hd [] 0
    rw [List.append_nil] at hask
    rw [hask]
    exact hs

/-- A dispatch ends in one way only. -/
theorem Ends.unique {ending' : Ending} (h : r.Ends request ending)
    (h' : r.Ends request ending') : ending = ending' := by
  have hasked  := h.of_askFrom
  have hasked' := h'.of_askFrom
  generalize (askFrom request 0 r.filters).value = answer at hasked hasked'
  match answer with
  | .finished (some payload) =>
    by_cases hread : payload.Crashes
    · exact (hasked.1 hread).trans (hasked'.1 hread).symm
    · exact (hasked.2 hread).trans (hasked'.2 hread).symm
  | .crashed       => exact hasked.trans hasked'.symm
  | .finished none => exact Selection.Ends.unique hasked hasked'

/-- The ending decides the outcome and the response. -/
theorem Ends.dispatch_eq (h : r.Ends request ending) :
    (r.dispatch request).outcome = ending.outcome ∧
      (r.dispatch request).response = ending.response := by
  cases h with
  | filtered hr hb hf hread =>
    rw [dispatch_of_answered hr hb hf, Payload.caught_eq_of_not_crashes hread]
    exact ⟨rfl, rfl⟩
  | filteredCrashed hr hb hf hread =>
    rw [dispatch_of_answered hr hb hf, hread.caught_eq]
    exact ⟨rfl, rfl⟩
  | filterCrashed hr hb hf =>
    rw [dispatch_of_crashed hr hb hf]
    exact ⟨rfl, rfl⟩
  | selected hd hs =>
    rw [dispatch_of_declined hd, hs.answer_eq]
    exact ⟨rfl, rfl⟩

end Router

/-! ### Failures -/

/-- Something went wrong behind the binding: an error, a crash, or a stream that fails. -/
inductive Ending.IsFailure : Ending → Prop
  | handlerError (message : String) : IsFailure (.handlerError message)
  | loadError (fault : ReadFault) : IsFailure (.loadError fault)
  | crashed (culprit : Culprit) : IsFailure (.crashed culprit)
  | filtered {payload : Payload} (h : payload.Breaks) : IsFailure (.filtered payload)
  | handled {payload : Payload} (h : payload.Breaks) : IsFailure (.handled payload)

theorem Ending.IsFailure.response_eq (h : ending.IsFailure) : ending.response = .serverError := by
  cases h with
  | handlerError => rfl
  | loadError    => rfl
  | crashed      => rfl
  | filtered h   => exact h.ofPayload_eq
  | handled h    => exact h.ofPayload_eq

/-- Endings that differ in what must not be told: in what did not bind, or in what failed, be it an
error and its text, a crash, or a stream with the bytes that were read of it, and with the status,
the content type and the header fields of its payload. -/
inductive Ending.Alike : Ending → Ending → Prop
  | unbound (fault fault' : Handler.Fault) : Alike (.unbound fault) (.unbound fault')
  | failed {ending ending' : Ending} (h : ending.IsFailure) (h' : ending'.IsFailure) :
      Alike ending ending'

theorem Ending.Alike.response_eq {ending ending' : Ending} (h : ending.Alike ending') :
    ending.response = ending'.response := by
  cases h with
  | unbound     => rfl
  | failed h h' => exact h.response_eq.trans h'.response_eq.symm

/-- Every dispatch has an ending. Whatever does not bind is answered by one page, whatever fails is
answered by another, and so two dispatches of any routers whose endings differ in no more than what
must not be told have the same response. -/
theorem Router.failure_is_silent (r : Router) (request : Request) :
    (∃ ending, r.Ends request ending) ∧
      (∀ fault, r.Ends request (.unbound fault) → (r.dispatch request).response =
        { status := { code := 400 }, contentType := "text/html", headers := .empty,
          body := Utf8.ofString "Bad request" }) ∧
      (∀ ending, r.Ends request ending → ending.IsFailure → (r.dispatch request).response =
        { status := { code := 500 }, contentType := "text/html", headers := .empty,
          body := Utf8.ofString "An error occurred on the server" }) ∧
      ∀ (r' : Router) (request' : Request) (ending ending' : Ending), r.Ends request ending →
        r'.Ends request' ending' → ending.Alike ending' →
          (r.dispatch request).response = (r'.dispatch request').response := by
  refine ⟨exists_ends r request, ?unbound, ?failed, ?alike⟩
  case unbound =>
    intro fault h
    exact h.dispatch_eq.2
  case failed =>
    intro ending h hfails
    exact h.dispatch_eq.2.trans hfails.response_eq
  case alike =>
    intro r' request' ending ending' h h' halike
    rw [h.dispatch_eq.2, h'.dispatch_eq.2, halike.response_eq]

-- A stream that breaks takes the status of its payload with it, and the bytes before the break.
example :
    let torn := (Payload.ofStream "text/plain"
      { chunks := [[1], [2, 3]], ending := .failed }).withStatus .seeOther
    let r : Router := { filters := [fun _ => .finished (some torn)] }
    (r.dispatch { method := .get, path := "/" }).response = .serverError := rfl

end Signpost
