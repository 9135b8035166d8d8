import Mathlib.Data.List.Induction
import Signpost.Transport

/-!
# Payloads are sent as they were built

A payload is made by a constructor and then changed by a chain of statuses and header fields. What
is sent of it can be read off the constructor and the chain: `Payload.sent_intact`. The chain may
add content types of its own. They stay beside the one of the constructor until the response is
sent, and there its content type takes the place of them all, unless it is no header value.
-/

namespace Signpost

/-! ### Header values and fields -/

namespace HeaderValue

variable {s : String} {v : HeaderValue}

theorem ofString?_eq_some_iff : ofString? s = some v ↔ v.bytes = Utf8.ofString s := by
  obtain ⟨bytes, hbytes⟩ := v
  constructor
  · intro h
    simp only [ofString?, ofBytes?, Option.dite_none_right_eq_some, Option.some.injEq,
      mk.injEq] at h
    exact h.2.symm
  · rintro rfl
    exact dif_pos hbytes

theorem ofString?_eq_none_iff :
    ofString? s = none ↔ ¬ ∃ v : HeaderValue, v.bytes = Utf8.ofString s := by
  simp only [Option.eq_none_iff_forall_ne_some, ne_eq, ofString?_eq_some_iff, not_exists]

end HeaderValue

theorem Headers.mem_fields_iff {h : Headers} {name : HeaderName} {v : HeaderValue} :
    (name, v) ∈ h.fields ↔ v ∈ h.values name := by
  simp only [values, List.mem_filterMap, Option.ite_none_right_eq_some, Option.some.injEq]
  constructor
  · intro hmem
    exact ⟨(name, v), hmem, rfl, rfl⟩
  · rintro ⟨⟨n, w⟩, hmem, rfl, rfl⟩
    exact hmem

theorem Json.toBytes_eq (v : Json) : v.toBytes = Utf8.ofString v.toText := by
  rw [toBytes, toText, Utf8.ofString, String.toList_ofList]

namespace Response

variable {r : Response}

theorem fields_of_valid {v : HeaderValue} (h : v.bytes = Utf8.ofString r.contentType) :
    r.fields = r.headers.replace .contentType v := by
  rw [fields, HeaderValue.ofString?_eq_some_iff.mpr h]

theorem fields_of_invalid (h : ¬ ∃ v : HeaderValue, v.bytes = Utf8.ofString r.contentType) :
    r.fields = r.headers := by
  rw [fields, HeaderValue.ofString?_eq_none_iff.mpr h]

/-- No field but the content type changes its values. -/
theorem values_fields {name : HeaderName} (h : name ≠ .contentType) :
    r.fields.values name = r.headers.values name := by
  by_cases hvalid : ∃ v : HeaderValue, v.bytes = Utf8.ofString r.contentType
  · obtain ⟨v, hv⟩ := hvalid
    rw [fields_of_valid hv, Headers.values_replace, if_neg h.symm]
  · rw [fields_of_invalid hvalid]

end Response

namespace Payload

/-! ### Chains -/

/-- The constructors of payloads, with what they are given. -/
inductive Origin
  | new (contentType : String) (body : Bytes)
  | html (text : String)
  | bytes (body : Bytes)
  | status (s : Status)
  | json (v : Json)
  | stream (contentType : String) (chunks : List Bytes)

namespace Origin

/-- What the constructor makes; the stream comes to its end. -/
def payload : Origin → Payload
  | new contentType body      => .ofBytes contentType body
  | html text                 => .html text
  | bytes body                => .bytes body
  | status s                  => .ofStatus s
  | json v                    => .json v
  | stream contentType chunks => .ofStream contentType { chunks }

/-- The status before any change. -/
def initialStatus : Origin → Status
  | status s => s
  | _        => .ok

def contentType : Origin → String
  | new contentType _     => contentType
  | html _ | status _     => "text/html"
  | bytes _               => "application/octet-stream"
  | json _                => "application/json"
  | stream contentType _  => contentType

/-- The bytes to be sent. -/
def body : Origin → Bytes
  | new _ body | bytes body => body
  | html text               => Utf8.ofString text
  | status _                => []
  | json v                  => Utf8.ofString v.toText
  | stream _ chunks         => chunks.flatten

end Origin

/-- What may be changed of a payload that is made. -/
inductive Change
  | status (s : Status)
  | header (name : HeaderName) (value : HeaderValue)

def Change.apply (p : Payload) : Change → Payload
  | status s          => p.withStatus s
  | header name value => p.withHeader name value

/-- The payload of a constructor after a chain of changes. -/
def build (o : Origin) (cs : List Change) : Payload :=
  cs.foldl Change.apply o.payload

def Change.status? : Change → Option Status
  | status s   => some s
  | header _ _ => none

def Change.value? (name : HeaderName) : Change → Option HeaderValue
  | status _       => none
  | header n value => if n = name then some value else none

/-- The last status of a chain. -/
def lastStatus? (cs : List Change) : Option Status :=
  (cs.filterMap Change.status?).getLast?

/-- The values that a chain adds under a name, in their order. -/
def added (name : HeaderName) (cs : List Change) : List HeaderValue :=
  cs.filterMap (Change.value? name)

theorem lastStatus?_concat (cs : List Change) (c : Change) :
    lastStatus? (cs ++ [c]) = c.status?.or (lastStatus? cs) := by
  cases hc : c.status? <;> simp [lastStatus?, hc]

theorem added_concat (name : HeaderName) (cs : List Change) (c : Change) :
    added name (cs ++ [c]) = added name cs ++ (c.value? name).toList := by
  cases hc : c.value? name <;> simp [added, hc]

theorem mem_added_iff {name : HeaderName} {value : HeaderValue} {cs : List Change} :
    value ∈ added name cs ↔ .header name value ∈ cs := by
  simp only [added, List.mem_filterMap]
  constructor
  · rintro ⟨c, hc, hvalue⟩
    cases c with
    | status s => simp [Change.value?] at hvalue
    | header n w =>
      obtain ⟨rfl, rfl⟩ : n = name ∧ w = value := by simpa [Change.value?] using hvalue
      exact hc
  · intro h
    exact ⟨_, h, if_pos rfl⟩

/-! ### What a chain leaves -/

/-- The payload is what the constructor and the chain tell. -/
structure IsBuilt (o : Origin) (cs : List Change) (p : Payload) : Prop where
  status : p.status = (lastStatus? cs).getD o.initialStatus
  contentType : p.contentType = o.contentType
  values : ∀ name, p.headers.values name = added name cs
  body : Response.bodyBytes p.body = .finished (some o.body)

variable {o : Origin} {cs : List Change} {p : Payload}

theorem isBuilt_payload (o : Origin) : IsBuilt o [] o.payload := by
  cases o with
  | json v =>
    have hbody : some v.toBytes = some (Utf8.ofString v.toText) := congrArg some v.toBytes_eq
    exact ⟨rfl, rfl, fun _ => rfl, congrArg Attempt.finished hbody⟩
  | _ => exact ⟨rfl, rfl, fun _ => rfl, rfl⟩

/-- A change sets the status or adds a header field and leaves everything else as it is. -/
theorem IsBuilt.apply (h : IsBuilt o cs p) (c : Change) : IsBuilt o (cs ++ [c]) (c.apply p) := by
  cases c with
  | status s =>
    constructor
    case status =>
      rw [lastStatus?_concat]
      rfl
    case contentType => exact h.contentType
    case values =>
      intro name
      rw [added_concat, ← h.values name]
      exact (List.append_nil _).symm
    case body => exact h.body
  | header n value =>
    constructor
    case status =>
      rw [lastStatus?_concat]
      exact h.status
    case contentType => exact h.contentType
    case values =>
      intro name
      rw [added_concat, ← h.values name, Change.apply, withHeader, Headers.values_append,
        Change.value?]
      split_ifs <;> rfl
    case body => exact h.body

theorem isBuilt_build (o : Origin) (cs : List Change) : IsBuilt o cs (build o cs) := by
  induction cs using List.reverseRecOn with
  | nil => exact isBuilt_payload o
  | append_singleton cs c ih =>
    rw [build, List.foldl_append]
    exact ih.apply c

/-! ### What is sent -/

theorem IsBuilt.ofPayload_eq (h : IsBuilt o cs p) :
    Response.ofPayload p = ⟨p.status, o.contentType, p.headers, o.body⟩ := by
  rw [Response.ofPayload, Response.negotiate, h.body, ← h.contentType]
  rfl

/-- What is sent is what the constructor and the chain tell. -/
structure IsIntact (o : Origin) (cs : List Change) (sent : Transport.Outgoing) : Prop where
  status : sent.status = (lastStatus? cs).getD o.initialStatus
  body : sent.body = o.body
  values : ∀ name, name ≠ .contentType → sent.headers.values name = added name cs
  names : ∀ f ∈ sent.headers.fields, f.1 = .contentType ∨ ∃ value, .header f.1 value ∈ cs
  contentType : ∀ v : HeaderValue, v.bytes = Utf8.ofString o.contentType →
    sent.headers.values .contentType = [v]
  invalid : (¬ ∃ v : HeaderValue, v.bytes = Utf8.ofString o.contentType) →
    sent.headers.values .contentType = added .contentType cs

/-- However a payload is made and changed, it is sent with the last status of the chain or else that
of the constructor, with the bytes given, the text of the JSON value or the chunks of the stream one
behind the other, and with the header fields of the chain and no others but the content type. That
one is the constructor's alone if it can be a header value, and else stands as the chain has it. -/
theorem sent_intact (o : Origin) (cs : List Change) :
    IsIntact o cs (Transport.Outgoing.ofResponse (.ofPayload (build o cs))) := by
  have h := isBuilt_build o cs
  have htype : (Response.ofPayload (build o cs)).contentType = o.contentType :=
    congrArg Response.contentType h.ofPayload_eq
  have hheaders : (Response.ofPayload (build o cs)).headers = (build o cs).headers :=
    congrArg Response.headers h.ofPayload_eq
  have hvalues : ∀ name, name ≠ .contentType →
      (Response.ofPayload (build o cs)).fields.values name = added name cs := by
    intro name hname
    rw [Response.values_fields hname, hheaders, h.values]
  constructor
  case status => exact (congrArg Response.status h.ofPayload_eq).trans h.status
  case body => exact congrArg Response.body h.ofPayload_eq
  case values => exact hvalues
  case names =>
    rintro ⟨name, value⟩ hf
    by_cases hname : name = .contentType
    · exact .inl hname
    · have hadded : value ∈ added name cs := hvalues name hname ▸ Headers.mem_fields_iff.mp hf
      exact .inr ⟨value, mem_added_iff.mp hadded⟩
  case contentType =>
    intro v hv
    rw [← htype] at hv
    rw [Transport.Outgoing.ofResponse, Response.fields_of_valid hv, Headers.values_replace,
      if_pos rfl]
  case invalid =>
    intro hv
    rw [← htype] at hv
    rw [Transport.Outgoing.ofResponse, Response.fields_of_invalid hv, hheaders, h.values]

/-- A content type with a line break is no header value, and the one that was added stays. -/
example :
    let css : HeaderValue := ⟨Utf8.ofString "text/css", by decide +kernel⟩
    let sent (o : Origin) : Transport.Outgoing :=
      .ofResponse (.ofPayload (build o [.header .contentType css]))
    (sent (.html "")).headers.values .contentType ≠ [css] ∧
      (sent (.new "text/html\n" [])).headers.values .contentType = [css] := by
  decide +kernel

end Payload

end Signpost
