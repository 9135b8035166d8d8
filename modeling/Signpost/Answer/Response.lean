import Signpost.Answer.Payload
import Signpost.Json.Writer

/-!
# Responses

`Response.negotiate` makes a payload into a response: a stream is read to its end and a JSON value
is written. The answers that no payload gives have a fixed form, and one of them stands for a stream
that fails. `Response.fields` puts the content type among the header fields.
-/

namespace Signpost

/-- A response, ready to be sent. -/
structure Response where
  status : Status
  contentType : String
  headers : Headers
  body : Bytes
deriving DecidableEq, Repr

namespace Response

/-! ### Fixed answers -/

/-- A short page without header fields. -/
def plain (status : Status) (text : String) : Response :=
  { status, contentType := ContentType.html.mediaType, headers := .empty,
    body := Utf8.ofString text }

def notFound : Response := plain .notFound "Page not found"

def methodNotAllowed : Response := plain .methodNotAllowed "Method not allowed"

def badRequest : Response := plain .badRequest "Bad request"

def payloadTooLarge : Response := plain .payloadTooLarge "Payload too large"

def serverError : Response := plain .serverError "An error occurred on the server"

/-! ### From payloads -/

/-- The bytes of a body; none if it is a stream that fails. -/
def bodyBytes : Payload.Body → Attempt (Option Bytes)
  | .bytes bs => .finished (some bs)
  | .stream s => s.readToEnd
  | .json v   => .finished (some v.toBytes)

/-- Makes the payload into a response. A stream that fails cannot be answered in part. -/
def negotiate (p : Payload) : Attempt Response :=
  (bodyBytes p.body).map fun
    | some body =>
      { status := p.status, contentType := p.contentType, headers := p.headers, body }
    | none => serverError

/-- The response that a payload comes to, also if its stream crashes. -/
def ofPayload (p : Payload) : Response :=
  match negotiate p with
  | .finished response => response
  | .crashed           => serverError

/-! ### As it is sent -/

/-- The header fields with the content type, which takes the place of all others. One that is no
header value is left out, and then the fields stay as they are. -/
def fields (r : Response) : Headers :=
  match HeaderValue.ofString? r.contentType with
  | some v => r.headers.replace .contentType v
  | none   => r.headers

end Response

end Signpost
