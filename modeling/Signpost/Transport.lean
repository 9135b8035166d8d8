import Signpost.Dispatch.Dispatcher

/-!
# Transport

The way of a request from the wire to the dispatcher and of the response back. The body is collected
first and may not be longer than a limit. Then the target is decoded: its path is percent-decoded
and its query read as urlencoded pairs, and so is a body that is sent as a form.
-/

namespace Signpost.Transport

/-- A body as it arrives: to its end, or until the connection broke. -/
inductive Arrival
  | complete (body : Bytes)
  | broken (received : Bytes)
deriving DecidableEq, Repr

structure Incoming where
  method : Method
  target : String
  headers : Headers := .empty
  body : Arrival := .complete []
deriving DecidableEq, Repr

/-- Why a request does not reach the dispatcher. -/
inductive Refusal
  | tooLarge
  | unreadable
deriving DecidableEq, Repr

def Refusal.response : Refusal → Response
  | tooLarge   => .payloadTooLarge
  | unreadable => .badRequest

/-- The longest body that is accepted unless another limit is set: two mebibytes. -/
def defaultLimit : Nat := 2 * 1024 * 1024

/-! ### In -/

/-- The whole body, if it is not longer than the limit and arrived to its end. -/
def Arrival.collect (limit : Nat) : Arrival → Except Refusal Bytes
  | complete body   => if body.length ≤ limit then .ok body else .error .tooLarge
  | broken received => if received.length ≤ limit then .error .unreadable else .error .tooLarge

/-- The path of a target: escapes become bytes, and bytes text. A plus sign is itself. -/
def readPath (path : String) : String :=
  Utf8.toString (Percent.decode (Utf8.ofString path))

/-- How the type of a form body starts. -/
def formType : Bytes :=
  Utf8.ofString "application/x-www-form-urlencoded"

/-- Whether the body is sent as a form: the first content type is printable and starts with
`formType`, letter by letter. -/
def isForm (headers : Headers) : Bool :=
  match headers.get? .contentType with
  | none   => false
  | some v => v.bytes.all HeaderValue.isVisible && formType.isPrefixOf v.bytes

/-- The request with a given body. -/
def Incoming.request (i : Incoming) (body : Bytes) : Request :=
  let (path, query) := match Text.cut '?' i.target with
    | some (path, query) => (path, Pairs.ofUrlencoded (Utf8.ofString query))
    | none               => (i.target, .empty)
  { method := i.method
    path := readPath path
    query
    form := if isForm i.headers then .ofUrlencoded body else .empty
    body }

def Incoming.decode (i : Incoming) (limit : Nat) : Except Refusal Request :=
  match i.body.collect limit with
  | .ok body  => .ok (i.request body)
  | .error e  => .error e

/-! ### Out -/

/-- A response as it is sent. -/
structure Outgoing where
  status : Status
  headers : Headers
  body : Bytes
deriving DecidableEq, Repr

/-- A response with all its header fields. -/
def Outgoing.ofResponse (r : Response) : Outgoing where
  status := r.status
  headers := r.fields
  body := r.body

/-! ### There and back -/

/-- Answers a request: with what the dispatcher answers, or without asking it. -/
def handle (d : Dispatcher) (limit : Nat) (i : Incoming) : Response × Dispatcher :=
  match i.decode limit with
  | .ok request    => d.dispatch request
  | .error refusal => (refusal.response, d)

end Signpost.Transport
