import Signpost.Router.Basic

/-!
# Registration

What can be done to a router, as data: a list of registrations is the history of a router.
-/

namespace Signpost

/-- A handler with the patterns under which it is mounted. -/
structure Entry where
  method : Method
  patterns : List String
  handler : Handler

/-- One change to a router. -/
inductive Registration
  | on (method : Method) (pattern : String) (handler : Handler)
  /-- Handlers under patterns that all start at a mount point. -/
  | mount (mountPoint : String) (entries : List Entry)
  | assets (resolver : Resolver)
  | filter (filter : Filter)
  /-- An end to all that came before. -/
  | reset

/-- The fault of a list of registrations, and which of them has it. -/
structure Registration.Fault where
  position : Nat
  cause : Endpoint.Fault
deriving DecidableEq, Repr

namespace Router

/-- Adds an endpoint before all routes. -/
def on (r : Router) (method : Method) (pattern : String) (handler : Handler) :
    Except Endpoint.Fault Router := do
  let endpoint ← Endpoint.make method pattern handler
  return r.prepend (.endpoint endpoint)

/-- The endpoints of mounted entries in their order. -/
def mountedEndpoints (mountPoint : String) (entries : List Entry) :
    Except Endpoint.Fault (List Endpoint) :=
  (entries.flatMap fun e => e.patterns.map fun p => (e, p)).mapM fun (e, p) =>
    Endpoint.make e.method (Pattern.mounted mountPoint p) e.handler

/-- Adds the endpoints of entries, each before those added so far. All of them are checked before
the first is added. -/
def mount (r : Router) (mountPoint : String) (entries : List Entry) :
    Except Endpoint.Fault Router := do
  let added ← mountedEndpoints mountPoint entries
  return added.foldl (fun r e => r.prepend (.endpoint e)) r

/-- Adds static content behind all routes. -/
def assets (r : Router) (resolver : Resolver) : Router :=
  r.append (.assets resolver)

/-- Adds a filter behind all filters. -/
def filter (r : Router) (filter : Filter) : Router :=
  { r with filters := r.filters ++ [filter] }

def register (r : Router) : Registration → Except Endpoint.Fault Router
  | .on method pattern handler => r.on method pattern handler
  | .mount mountPoint entries  => r.mount mountPoint entries
  | .assets resolver           => .ok (r.assets resolver)
  | .filter filter             => .ok (r.filter filter)
  | .reset                     => .ok empty

/-- Makes changes in their order, the first of which is at `position`, and stops at the first
fault. -/
def registerFrom (position : Nat) (r : Router) :
    List Registration → Except Registration.Fault Router
  | []      => .ok r
  | c :: cs =>
    match r.register c with
    | .ok r    => r.registerFrom (position + 1) cs
    | .error e => .error ⟨position, e⟩

/-- Makes changes in their order, and stops at the first fault. -/
def registerAll (r : Router) (cs : List Registration) : Except Registration.Fault Router :=
  r.registerFrom 0 cs

end Router

end Signpost
