import Signpost.Answer.Response
import Signpost.Binding.Form
import Signpost.Binding.Param
import Signpost.Http.Request

/-!
# Handlers

A handler is offered a request and the texts that its pattern captured. First it binds: it reads
what it takes from them, and may refuse. Only when all is bound does it run, and running ends with a
payload, with an error, or in a crash. `Handler.bindTo` yields the run that is still to be made, and
`Handler.call` makes it at once.
-/

namespace Signpost

/-! ### Running -/

/-- How a run of a handler ends: an error has a text. -/
abbrev Reply := Attempt (Except String Payload)

def Reply.payload (p : Payload) : Reply :=
  .finished (.ok p)

def Reply.error (message : String) : Reply :=
  .finished (.error message)

/-! ### Binding -/

/-- Why a handler could not be run. -/
inductive Handler.Fault
  | param (fault : ParamFault)
  | form (fault : Form.Fault)
deriving DecidableEq, Repr

def Handler.Fault.message : Fault → String
  | param (.invalidValue value kind) => "cannot bind `" ++ value ++ "` as " ++ kind.name
  | param (.missing index)           => "missing value for parameter " ++ toString index
  | form fault                       => "invalid form body: " ++ fault.message

/-- A handler that has bound, and is still to be run. -/
abbrev Bound := Unit → Reply

/-- A handler. What it takes is the parameters that the pattern captures, the whole request, the
pairs that the request sends, or a record that it reads from the form. -/
inductive Handler
  | positional (kinds : List ParamKind) (run : Args kinds → Reply)
  | request (run : Request → Reply)
  | pairs (run : Pairs → Reply)
  | form (read : Pairs → Except Form.Fault Bound)

namespace Handler

/-- A handler of a record that `read` finds in the form. -/
def ofForm {α : Type} (read : Pairs → Except Form.Fault α) (run : α → Reply) : Handler :=
  .form fun kv => (read kv).map fun record _ => run record

/-- How many of the captured texts the handler takes. -/
def arity : Handler → Nat
  | .positional kinds _ => kinds.length
  | _                   => 0

/-- Whether the handler reads a record. -/
def readsForm : Handler → Bool
  | .form _ => true
  | _       => false

/-- Reads what the handler takes. A record is read from the form in its written form, so that a form
with a pair that was put in by hand is read like one that was sent. -/
def bindTo (request : Request) (texts : List String) : Handler → Except Handler.Fault Bound
  | .positional kinds run => ((bindParams kinds texts).map fun args _ => run args).mapError .param
  | .request run          => .ok fun _ => run request
  | .pairs run            => .ok fun _ => run request.pairs
  | .form read            => (read (.ofUrlencoded request.form.toUrlencoded)).mapError .form

/-- Binds and runs. -/
def call (request : Request) (texts : List String) (h : Handler) : Except Handler.Fault Reply :=
  (h.bindTo request texts).map (· ())

end Handler

end Signpost
