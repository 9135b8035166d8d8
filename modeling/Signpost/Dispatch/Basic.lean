import Signpost.Dispatch.Record

/-!
# Dispatch

The answer of a router to a request. The filters are asked first, in their order. If none of them
answers, the selected route does, and if there is none, the answer is a fixed one. `Router.route`
crashes with any code that it comes upon, and `Router.dispatch` answers a crash like an error.

Both also yield the calls that were made on the way, so that one can say what ran.
-/

namespace Signpost

inductive Outcome
  | filtered
  | handled
  | notFound
  | methodNotAllowed
  /-- A handler refused what it was offered. -/
  | badRequest
  /-- Something ended with an error, or crashed. -/
  | failed
deriving DecidableEq, Repr

def Outcome.label : Outcome → String
  | filtered         => "filtered"
  | handled          => "handled"
  | notFound         => "not_found"
  | methodNotAllowed => "method_not_allowed"
  | badRequest       => "bad_request"
  | failed           => "failed"

/-- What a request is answered with. -/
structure Answer where
  outcome : Outcome
  response : Response
deriving DecidableEq, Repr

/-- What comes of a dispatch. -/
structure Dispatched extends Answer where
  calls : List Call
deriving DecidableEq, Repr

/-! ### Answers -/

namespace Answer

/-- A payload as the answer. Its stream is read for that, and may crash. -/
def ofPayload (outcome : Outcome) (payload : Payload) : Attempt Answer :=
  (Response.negotiate payload).map (⟨outcome, ·⟩)

/-- The answer to whatever fails. -/
def failed : Answer := ⟨.failed, .serverError⟩

/-- The end of a run. -/
def ofRun {ε : Type} : Attempt (Except ε Payload) → Attempt Answer
  | .finished (.ok payload) => ofPayload .handled payload
  | .finished (.error _)    => .finished failed
  | .crashed                => .crashed

/-- The answer in any case. -/
def caught : Attempt Answer → Answer
  | .finished answer => answer
  | .crashed         => failed

end Answer

namespace Router

/-- Asks filters, the first of which has the given index, until one answers. -/
def askFrom (request : Request) (index : Nat) :
    List Filter → Recorded (Attempt (Option Payload))
  | []      => return .finished none
  | f :: fs => do
    match ← Recorded.call (.filter index) f request with
    | .finished none => askFrom request (index + 1) fs
    | answer         => return answer

/-- The answer of what was selected. -/
def answer (request : Request) : Selection → Recorded (Attempt Answer)
  | .endpoint index e texts =>
    match e.handler.bindTo request texts with
    | .ok run  => return Answer.ofRun (← Recorded.call (.handler index) run ())
    | .error _ => return .finished ⟨.badRequest, .badRequest⟩
  | .asset index resolver asset =>
    return Answer.ofRun (← Recorded.call (.load index) resolver.load asset)
  | .wrongMethod => return .finished ⟨.methodNotAllowed, .methodNotAllowed⟩
  | .nothing     => return .finished ⟨.notFound, .notFound⟩
  | .crashed     => return .crashed

/-- The answer of the filters, or else that of what is selected. -/
def route (r : Router) (request : Request) : Recorded (Attempt Answer) := do
  match ← askFrom request 0 r.filters with
  | .finished (some payload) => return Answer.ofPayload .filtered payload
  | .finished none           => answer request (r.select request)
  | .crashed                 => return .crashed

/-- Answers a request in any case. -/
def dispatch (r : Router) (request : Request) : Dispatched :=
  let routed := r.route request
  { Answer.caught routed.value with calls := routed.calls }

end Router

/-! ### Observation -/

/-- What an observer is told of a dispatch. -/
structure Event where
  method : Method
  path : String
  outcome : Outcome
  status : Status
deriving DecidableEq, Repr

/-- What an observer is told of a dispatch of the request. -/
def Dispatched.event (d : Dispatched) (request : Request) : Event where
  method := request.method
  path := request.path
  outcome := d.outcome
  status := d.response.status

end Signpost
