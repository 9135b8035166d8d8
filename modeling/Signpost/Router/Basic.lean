import Signpost.Pattern.Compile
import Signpost.Site.Resolver

/-!
# Routers

A router holds filters and routes, and the routes stand in the order in which they are tried. An
endpoint is put before all of them and static content behind all of them. An endpoint is checked
when it is made, and the first fault is reported.
-/

namespace Signpost

/-- Looks at a request before any route does; a payload is the answer. -/
abbrev Filter := Request → Attempt (Option Payload)

/-- A handler with the method and the pattern that it answers. -/
structure Endpoint where
  method : Method
  pattern : Pattern
  handler : Handler

/-! ### Faults -/

/-- Why there is no endpoint for the pattern text `raw`. -/
inductive Endpoint.Fault
  | pattern (raw : String) (fault : Pattern.Fault)
  | arity (raw : String) (expected found : Nat)
  | formWithoutPost (method : Method) (raw : String)
deriving DecidableEq, Repr

def Endpoint.Fault.message : Fault → String
  | .pattern raw fault => "invalid pattern `" ++ raw ++ "`: " ++ fault.message
  | .arity raw expected found =>
    "expected " ++ toString expected ++ " parameters in `" ++ raw ++ "`, handler takes " ++
      toString found
  | .formWithoutPost method raw =>
    "`" ++ method.token ++ " " ++ raw ++ "`: form records can only be bound on POST"

/-- Compiles the pattern and checks that the handler takes what the pattern captures, and that a
record is only read from a form that is posted. -/
def Endpoint.make (method : Method) (raw : String) (handler : Handler) :
    Except Endpoint.Fault Endpoint :=
  match Pattern.compile raw with
  | .error fault => .error (.pattern raw fault)
  | .ok pattern  =>
    if pattern.arity ≠ handler.arity then
      .error (.arity raw pattern.arity handler.arity)
    else if handler.readsForm ∧ method ≠ .post then
      .error (.formWithoutPost method raw)
    else .ok { method, pattern, handler }

/-! ### Routes -/

inductive Route
  | endpoint (e : Endpoint)
  | assets (resolver : Resolver)

def Route.describe : Route → String
  | endpoint e => e.method.token ++ " " ++ e.pattern.raw
  | assets _   => "GET <static>"

structure Router where
  /-- The routes in the order in which they are tried. -/
  routes : List Route := []
  /-- The filters, the earliest first. -/
  filters : List Filter := []

namespace Router

def empty : Router := {}

/-- The router with a route that is tried before all others. -/
def prepend (r : Router) (route : Route) : Router :=
  { r with routes := route :: r.routes }

/-- The router with a route that is tried after all others. -/
def append (r : Router) (route : Route) : Router :=
  { r with routes := r.routes ++ [route] }

/-- The router in a few words: its routes in order and the number of its filters. -/
def describe (r : Router) : String :=
  "Router \x7b table: RouteTable \x7b routes: [" ++
    ", ".intercalate (r.routes.map Route.describe) ++
    "] \x7d, filters: FilterChain \x7b len: " ++ toString r.filters.length ++ " \x7d \x7d"

end Router

end Signpost
