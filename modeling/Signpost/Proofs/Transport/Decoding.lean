import Signpost.Proofs.Pairs.RoundTrip
import Signpost.Transport

/-!
# Sent pairs are received

Pairs that are written as urlencoded text reach a handler as they were, whether they are sent as a
form or as a query, and a handler that reads its pairs as a record finds the same ones:
`Transport.receives_written`.
-/

namespace Signpost

/-! ### Pairs of a request -/

namespace Request

variable {request : Request} {kv : Pairs}

theorem pairs_of_post (h : request.method = .post) : request.pairs = request.form :=
  if_pos h

theorem pairs_of_not_post (h : request.method ≠ .post) : request.pairs = request.query :=
  if_neg h

/-- Every handler of pairs that is offered the request is run with `kv`. -/
def HandsOver (request : Request) (kv : Pairs) : Prop :=
  ∀ texts run, Handler.call request texts (.pairs run) = .ok (run kv)

theorem handsOver_of_pairs_eq (h : request.pairs = kv) : request.HandsOver kv := by
  intro texts run
  rw [← h]
  rfl

end Request

/-- A handler that reads the form as pairs is run with the form. -/
theorem Handler.call_ofForm_pairs (request : Request) (texts : List String) (run : Pairs → Reply) :
    call request texts (.ofForm .ok run) = .ok (run request.form) := by
  have hform := Pairs.ofUrlencoded_toUrlencoded request.form
  simp [call, bindTo, ofForm, hform, Except.map, Except.mapError]

namespace Transport

variable {i : Incoming} {limit : Nat} {body : Bytes}

/-! ### Decoded requests -/

theorem decode_of_complete (hbody : i.body = .complete body) (hlimit : body.length ≤ limit) :
    i.decode limit = .ok (i.request body) := by
  simp [Incoming.decode, Arrival.collect, hbody, hlimit]

theorem request_form (h : isForm i.headers = true) :
    (i.request body).form = .ofUrlencoded body := if_pos h

/-- A target is cut at its first question mark. -/
theorem request_of_target {path query : String} (htarget : i.target = path ++ "?" ++ query)
    (hpath : '?' ∉ path.toList) (body : Bytes) :
    (i.request body).path = readPath path ∧
      (i.request body).query = .ofUrlencoded (Utf8.ofString query) := by
  have hcut : Text.cut '?' i.target = some (path, query) :=
    Text.cut_eq_some_iff.mpr ⟨by simp [htarget], hpath⟩
  simp [Incoming.request, hcut]

/-- A target without a question mark is all path. -/
theorem request_of_bareTarget (htarget : '?' ∉ i.target.toList) (body : Bytes) :
    (i.request body).path = readPath i.target ∧ (i.request body).query = .empty := by
  have hcut : Text.cut '?' i.target = none := Text.cut_eq_none_iff.mpr htarget
  simp [Incoming.request, hcut]

/-- A body is a form if its type starts like one and goes on in printable characters. -/
theorem isForm_of_bytes {headers : Headers} {v : HeaderValue} {parameters : Bytes}
    (hv : headers.get? .contentType = some v) (hbytes : v.bytes = formType ++ parameters)
    (hvisible : parameters.all HeaderValue.isVisible = true) : isForm headers = true := by
  have htype : formType.all HeaderValue.isVisible = true := by decide +kernel
  have hstart : formType.isPrefixOf (formType ++ parameters) = true :=
    List.isPrefixOf_iff_prefix.mpr (List.prefix_append formType parameters)
  simp only [isForm, hv, hbytes, List.all_append, htype, hvisible, hstart, Bool.and_self]

/-! ### Pairs on their way -/

theorem handsOver_of_form {kv : Pairs} (hm : i.method = .post) (hform : isForm i.headers = true) :
    (i.request kv.toUrlencoded).HandsOver kv := by
  refine Request.handsOver_of_pairs_eq ((Request.pairs_of_post hm).trans ?_)
  rw [request_form hform, Pairs.ofUrlencoded_toUrlencoded]

theorem handsOver_of_query {kv : Pairs} {path : String} (hm : i.method ≠ .post)
    (hpath : '?' ∉ path.toList)
    (htarget : i.target = path ++ "?" ++ Utf8.toString kv.toUrlencoded) :
    (i.request body).HandsOver kv := by
  refine Request.handsOver_of_pairs_eq ((Request.pairs_of_not_post hm).trans ?_)
  rw [(request_of_target htarget hpath body).2, Pairs.ofString_toString_toUrlencoded,
    Pairs.ofUrlencoded_toUrlencoded]

/-- Pairs read back from the text that is written for them. So a handler that reads a posted form as
a record of pairs is run with what a handler of pairs is run with. A handler of pairs receives
exactly the pairs that were written, if they are posted as a form whose length is within the limit,
and if any other request carries them in its query. -/
theorem receives_written (kv : Pairs) :
    Pairs.ofUrlencoded kv.toUrlencoded = kv ∧
      (∀ request texts run, request.method = .post →
        Handler.call request texts (.ofForm .ok run) = .ok (run request.form) ∧
          Handler.call request texts (.pairs run) = .ok (run request.form)) ∧
      (∀ (i : Incoming) limit v parameters, i.method = .post →
        i.headers.get? .contentType = some v → v.bytes = formType ++ parameters →
        parameters.all HeaderValue.isVisible = true →
        i.body = .complete kv.toUrlencoded → kv.toUrlencoded.length ≤ limit →
          ∃ request, i.decode limit = .ok request ∧ request.HandsOver kv) ∧
      ∀ (i : Incoming) limit body path, i.method ≠ .post → '?' ∉ path.toList →
        i.target = path ++ "?" ++ Utf8.toString kv.toUrlencoded →
        i.body = .complete body → body.length ≤ limit →
          ∃ request, i.decode limit = .ok request ∧ request.HandsOver kv := by
  refine ⟨Pairs.ofUrlencoded_toUrlencoded kv, ?_, ?_, ?_⟩
  · intro request texts run hm
    have hpairs := Request.handsOver_of_pairs_eq (Request.pairs_of_post hm)
    exact ⟨Handler.call_ofForm_pairs request texts run, hpairs texts run⟩
  · intro i limit v parameters hm hv hbytes hvisible hbody hlimit
    have hform := isForm_of_bytes hv hbytes hvisible
    exact ⟨_, decode_of_complete hbody hlimit, handsOver_of_form hm hform⟩
  · intro i limit body path hm hpath htarget hbody hlimit
    exact ⟨_, decode_of_complete hbody hlimit, handsOver_of_query hm hpath htarget⟩

/-- The empty pair, a key twice, a blank, signs with a meaning and a letter beyond ASCII. -/
theorem receives_written_awkward :
    let kv : Pairs := ⟨[("", ""), ("a b", "1+1=2"), ("a b", "100%&"), ("é", "")]⟩
    let get : Incoming :=
      { method := .get, target := "/find?=&a+b=1%2B1%3D2&a+b=100%25%26&%C3%A9=" }
    let post : Incoming :=
      { method := .post, target := "/find"
        headers := ⟨[(.contentType, ⟨formType, by decide +kernel⟩)]⟩
        body := .complete kv.toUrlencoded }
    (∃ request, get.decode defaultLimit = .ok request ∧ request.HandsOver kv) ∧
      ∃ request, post.decode defaultLimit = .ok request ∧ request.HandsOver kv := by
  intro kv get post
  obtain ⟨-, -, hposted, hasked⟩ := receives_written kv
  have hget : Method.get ≠ Method.post := by decide
  refine ⟨hasked get _ [] "/find" hget (by decide) (by decide +kernel) rfl (by decide), ?_⟩
  exact hposted post _ _ [] rfl rfl (by simp) rfl rfl (by decide +kernel)

end Transport

end Signpost
