import Signpost.Http.ContentType
import Signpost.Http.Header
import Signpost.Http.Status
import Signpost.Json.Value

/-!
# Payloads

What a handler or a filter answers with. A body is bytes, a JSON value, or a stream that is read
only when the response is made and may fail or crash then. A payload starts with status `200` and no
header fields; `withStatus` and `withHeader` say more.
-/

namespace Signpost

/-- How code that may crash ends. -/
inductive Attempt (α : Type)
  | finished (a : α)
  | crashed
deriving Repr

def Attempt.map {α β : Type} (f : α → β) : Attempt α → Attempt β
  | finished a => .finished (f a)
  | crashed    => .crashed

/-! ### Streams -/

/-- What comes behind the last chunk of a stream. -/
inductive StreamEnd
  | closed
  /-- An error instead of a further chunk. -/
  | failed
  /-- The code that reads the stream crashes. -/
  | crashed
deriving DecidableEq, Repr

/-- Bytes that arrive in chunks. -/
structure ByteStream where
  chunks : List Bytes
  ending : StreamEnd := .closed
deriving DecidableEq, Repr

/-- All bytes of the stream, none if it fails. -/
def ByteStream.readToEnd (s : ByteStream) : Attempt (Option Bytes) :=
  match s.ending with
  | .closed  => .finished (some s.chunks.flatten)
  | .failed  => .finished none
  | .crashed => .crashed

/-! ### Payloads -/

inductive Payload.Body
  | bytes (bs : Bytes)
  | stream (s : ByteStream)
  | json (v : Json)
deriving Repr

/-- An answer before it is made into a response. -/
structure Payload where
  status : Status := .ok
  contentType : String
  headers : Headers := .empty
  body : Payload.Body
deriving Repr

namespace Payload

def ofBytes (contentType : String) (bs : Bytes) : Payload :=
  { contentType, body := .bytes bs }

def ofStream (contentType : String) (s : ByteStream) : Payload :=
  { contentType, body := .stream s }

def json (v : Json) : Payload :=
  { contentType := ContentType.json.mediaType, body := .json v }

/-- A page of text. -/
def html (text : String) : Payload :=
  ofBytes ContentType.html.mediaType (Utf8.ofString text)

/-- Bytes of no known type. -/
def bytes (bs : Bytes) : Payload :=
  ofBytes ContentType.octetStream.mediaType bs

def withStatus (p : Payload) (s : Status) : Payload :=
  { p with status := s }

def withHeader (p : Payload) (name : HeaderName) (value : HeaderValue) : Payload :=
  { p with headers := p.headers.append name value }

def ofStatus (s : Status) : Payload :=
  (html "").withStatus s

/-- Why there is no redirection to a place. -/
inductive Fault
  | location
deriving DecidableEq, Repr

def Fault.message : Fault → String
  | .location => "failed to parse header value"

/-- Sends the client to `location`, which has to be a header value. -/
def seeOther (location : String) : Except Fault Payload :=
  match HeaderValue.ofString? location with
  | some v => .ok ((ofStatus .seeOther).withHeader .location v)
  | none   => .error .location

end Payload

end Signpost
