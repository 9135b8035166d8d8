import Signpost.Dispatch.Basic
import Signpost.Router.Registration

/-!
# Dispatchers

A dispatcher publishes a router that can be exchanged while requests are under way. A dispatch has
two steps: it starts with the router that is published then, and it completes later with that
router, whatever has been published in between. `run` makes steps of any number of dispatches and
exchanges in any order.
-/

namespace Signpost

/-- A dispatch that has started: its request, and the router that was published at its start. -/
structure Flight where
  router : Router
  request : Request

/-- A published router, the dispatches that have started under their tickets, and what the observer
has been told so far. -/
structure Dispatcher where
  router : Router := .empty
  inFlight : List (Nat × Flight) := []
  events : List Event := []

namespace Dispatcher

/-! ### Exchanging the router -/

def install (d : Dispatcher) (r : Router) : Dispatcher :=
  { d with router := r }

/-- Publishes what `build` makes of a router without routes; if it fails, all stays as it is. -/
def configure {ε : Type} (d : Dispatcher) (build : Router → Except ε Router) :
    Except ε Dispatcher :=
  match build .empty with
  | .ok r    => .ok (d.install r)
  | .error e => .error e

def reset (d : Dispatcher) : Dispatcher :=
  d.install .empty

/-! ### Dispatching -/

/-- Starts the dispatch of a request. -/
def start (d : Dispatcher) (ticket : Nat) (request : Request) : Dispatcher :=
  { d with inFlight := (ticket, ⟨d.router, request⟩) :: d.inFlight }

/-- Completes the dispatch under a ticket and tells the observer. -/
def complete (d : Dispatcher) (ticket : Nat) : Option Response × Dispatcher :=
  match d.inFlight.lookup ticket with
  | none        => (none, d)
  | some flight =>
    let result := flight.router.dispatch flight.request
    (some result.response,
      { d with
        inFlight := d.inFlight.eraseP (·.1 == ticket)
        events := d.events ++ [result.event flight.request] })

/-- Dispatches a request in one go. -/
def dispatch (d : Dispatcher) (request : Request) : Response × Dispatcher :=
  let result := d.router.dispatch request
  (result.response, { d with events := d.events ++ [result.event request] })

/-! ### Steps in any order -/

inductive Step
  | install (router : Router)
  | configure (build : Router → Except Registration.Fault Router)
  | reset
  | start (ticket : Nat) (request : Request)
  | complete (ticket : Nat)

/-- Makes one step; a completed dispatch yields a response under its ticket. -/
def step (d : Dispatcher) : Step → List (Nat × Response) × Dispatcher
  | .install r         => ([], d.install r)
  | .configure build   =>
    match d.configure build with
    | .ok d'    => ([], d')
    | .error _  => ([], d)
  | .reset             => ([], d.reset)
  | .start ticket req  => ([], d.start ticket req)
  | .complete ticket   =>
    match d.complete ticket with
    | (some response, d') => ([(ticket, response)], d')
    | (none, d')          => ([], d')

/-- Makes steps in their order. -/
def run (d : Dispatcher) : List Step → List (Nat × Response) × Dispatcher
  | []      => ([], d)
  | s :: ss =>
    let (done, d)  := d.step s
    let (later, d) := d.run ss
    (done ++ later, d)

end Dispatcher

end Signpost
