import Signpost.Proofs.Transport.Decoding

/-!
# The limit of bodies

A body that is longer than the limit is answered by the transport, and the dispatcher is left as it
was, whatever it holds. Any other body that arrives to its end is dispatched, and the request holds
all of it: `Transport.limit_exact`.
-/

namespace Signpost.Transport

variable {i : Incoming} {limit : Nat} {body : Bytes} {request : Request} {refusal : Refusal}

/-! ### Bodies -/

namespace Arrival

variable {a : Arrival}

/-- All that has arrived. -/
def received : Arrival → Bytes
  | complete body   => body
  | broken received => received

theorem collect_eq_ok_iff :
    a.collect limit = .ok body ↔ a = .complete body ∧ body.length ≤ limit := by
  cases a with
  | complete b =>
    by_cases h : b.length ≤ limit
    · simp only [collect, h, if_true, Except.ok.injEq, complete.injEq]
      exact ⟨fun hb => ⟨hb, hb ▸ h⟩, fun hb => hb.1⟩
    · simp only [collect, h, if_false, reduceCtorEq, complete.injEq, false_iff]
      rintro ⟨rfl, hb⟩
      exact h hb
  | broken b => by_cases h : b.length ≤ limit <;> simp [collect, h]

theorem collect_eq_tooLarge_iff :
    a.collect limit = .error .tooLarge ↔ limit < a.received.length := by
  cases a with
  | complete b => simp [collect, received]
  | broken b   => simp [collect, received]

theorem collect_eq_unreadable_iff :
    a.collect limit = .error .unreadable ↔
      ∃ received, a = .broken received ∧ received.length ≤ limit := by
  cases a with
  | complete b => by_cases h : b.length ≤ limit <;> simp [collect, h]
  | broken b   => simp [collect]

end Arrival

/-! ### Requests -/

theorem decode_eq_ok_iff :
    i.decode limit = .ok request ↔
      ∃ body, i.body = .complete body ∧ body.length ≤ limit ∧ i.request body = request := by
  simp only [← and_assoc, ← Arrival.collect_eq_ok_iff, Incoming.decode]
  cases i.body.collect limit <;> simp

theorem decode_eq_error_iff :
    i.decode limit = .error refusal ↔ i.body.collect limit = .error refusal := by
  rw [Incoming.decode]
  cases i.body.collect limit <;> simp

/-- The request holds what was sent with the body: the method and the whole body as they are, a path
and a query that the target alone decides, and the pairs of the whole body if it is a form. -/
structure Incoming.Conveys (i : Incoming) (body : Bytes) (request : Request) : Prop where
  method : request.method = i.method
  content : request.body = body
  target : ∀ path query, i.target = path ++ "?" ++ query → '?' ∉ path.toList →
    request.path = readPath path ∧ request.query = .ofUrlencoded (Utf8.ofString query)
  bareTarget : '?' ∉ i.target.toList → request.path = readPath i.target ∧ request.query = .empty
  form : isForm i.headers = true → request.form = .ofUrlencoded body
  noForm : isForm i.headers = false → request.form = .empty

theorem conveys_request (i : Incoming) (body : Bytes) : i.Conveys body (i.request body) where
  method := rfl
  content := rfl
  target _ _ htarget hpath := request_of_target htarget hpath body
  bareTarget htarget := request_of_bareTarget htarget body
  form hform := request_form hform
  noForm hform := by simp [Incoming.request, hform]

/-! ### Answers -/

theorem handle_of_decode_ok (h : i.decode limit = .ok request) (d : Dispatcher) :
    handle d limit i = d.dispatch request := by
  rw [handle, h]

theorem handle_of_decode_error (h : i.decode limit = .error refusal) (d : Dispatcher) :
    handle d limit i = (refusal.response, d) := by
  rw [handle, h]

/-- A body beyond the limit has the same answer from every dispatcher, and each is left as it was. A
body within the limit that arrives to its end is dispatched by every dispatcher as the same request,
which holds what was sent. So only a body that breaks off is called unreadable. -/
theorem limit_exact (limit : Nat) (i : Incoming) :
    (limit < i.body.received.length →
        ∀ d, handle d limit i = (.plain .payloadTooLarge "Payload too large", d)) ∧
      (∀ body, i.body = .complete body → body.length ≤ limit →
        ∃ request, i.Conveys body request ∧ ∀ d, handle d limit i = d.dispatch request) ∧
      ∀ body, i.body = .complete body → i.decode limit ≠ .error .unreadable := by
  refine ⟨fun hlong d => ?_, fun body hbody hlimit => ?_, fun body hbody hdecode => ?_⟩
  · have hcollect : i.body.collect limit = .error .tooLarge :=
      Arrival.collect_eq_tooLarge_iff.mpr hlong
    exact handle_of_decode_error (decode_eq_error_iff.mpr hcollect) d
  · have hdecode := decode_of_complete hbody hlimit
    exact ⟨i.request body, conveys_request i body, handle_of_decode_ok hdecode⟩
  · have hcollect := decode_eq_error_iff.mp hdecode
    obtain ⟨received, hbroken, -⟩ := Arrival.collect_eq_unreadable_iff.mp hcollect
    cases hbody.symm.trans hbroken

/-- A dispatcher that crashes on every request is asked for a body of the length of the limit, and
not for one more byte. -/
theorem limit_exact_crashing :
    let d : Dispatcher := { router := { filters := [fun _ => .crashed] } }
    let i (body : Bytes) : Incoming := { method := .post, target := "/", body := .complete body }
    (handle d 0 (i [])).1 = .serverError ∧ (handle d 2 (i [1, 2])).1 = .serverError ∧
      (handle d 2 (i [1, 2, 3])).1 = .payloadTooLarge := by
  intro d i
  have hcrash : ∀ request, (d.dispatch request).1 = .serverError := fun _ => rfl
  obtain ⟨-, hempty, -⟩ := limit_exact 0 (i [])
  obtain ⟨-, hequal, -⟩ := limit_exact 2 (i [1, 2])
  obtain ⟨hlong, -, -⟩ := limit_exact 2 (i [1, 2, 3])
  obtain ⟨request₀, -, h₀⟩ := hempty [] rfl (by decide)
  obtain ⟨request₂, -, h₂⟩ := hequal [1, 2] rfl (by decide)
  refine ⟨?_, ?_, ?_⟩
  · rw [h₀, hcrash]
  · rw [h₂, hcrash]
  · rw [hlong (by decide)]
    rfl

end Signpost.Transport
