import Signpost.Router.Basic

/-!
# Selection

Which route answers a request. Each route is offered the request in turn: it may not be meant, it
may be meant for another method, or it takes the request. The first that takes it is selected.
`Router.select` keeps whether some route was meant, because that is another answer than none.
-/

namespace Signpost

/-- What a route makes of a request. -/
inductive Offer
  /-- The path is not one of the route. -/
  | declined
  /-- The path is one of the route, the method is not. -/
  | wrongMethod
  /-- An endpoint takes the request with these captured texts. -/
  | captured (texts : List String)
  /-- Static content takes the request with this asset. -/
  | located (asset : AssetPath)
deriving DecidableEq, Repr

/-- What an endpoint makes of a request. -/
def Endpoint.offer (e : Endpoint) (request : Request) : Offer :=
  match e.pattern.captures request.path request.query with
  | none       => .declined
  | some texts => if request.method = e.method then .captured texts else .wrongMethod

/-- What static content makes of a request. It is for `GET` only. -/
def Resolver.offer (r : Resolver) (request : Request) : Attempt Offer :=
  match r.locate request.path with
  | .crashed                => .crashed
  | .finished none          => .finished .declined
  | .finished (some asset)  =>
    .finished (if request.method = .get then .located asset else .wrongMethod)

/-- The outcome of offering a request to routes. An index counts all routes in the order in which
they are tried. -/
inductive Selection
  | endpoint (index : Nat) (e : Endpoint) (texts : List String)
  | asset (index : Nat) (resolver : Resolver) (asset : AssetPath)
  | wrongMethod
  | nothing
  | crashed

/-- Offers the request to routes, the first of which has the given index; `meant` says whether the
path was one of a route before them. -/
def selectFrom (request : Request) (index : Nat) (meant : Bool) : List Route → Selection
  | []                    => if meant then .wrongMethod else .nothing
  | .endpoint e :: routes =>
    match e.offer request with
    | .captured texts => .endpoint index e texts
    | .wrongMethod    => selectFrom request (index + 1) true routes
    | _               => selectFrom request (index + 1) meant routes
  | .assets r :: routes   =>
    match r.offer request with
    | .crashed                  => .crashed
    | .finished (.located a)    => .asset index r a
    | .finished .wrongMethod    => selectFrom request (index + 1) true routes
    | .finished _               => selectFrom request (index + 1) meant routes

def Router.select (r : Router) (request : Request) : Selection :=
  selectFrom request 0 false r.routes

end Signpost
