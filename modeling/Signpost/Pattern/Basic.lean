import Signpost.Pairs.Basic

/-!
# Patterns

A pattern says which paths a route answers and what it takes from them:

    /users/:id/posts?page=:page

The path part is a list of segments, each a literal or a placeholder; the query part lists the keys
that have to be present and names their values. `Pattern.captures` matches a request, `render`
writes the parts of a pattern as text, and `fill` puts values into the placeholders of a path.
-/

namespace Signpost

/-- What one stretch of a path between slashes has to be. -/
inductive Segment
  | literal (text : String)
  | placeholder (name : String)
deriving DecidableEq, Repr

/-- A key that the query has to hold, and the name under which its value is captured. -/
structure QueryEntry where
  key : String
  name : String
deriving DecidableEq, Repr

/-- A compiled pattern, with the text it was compiled from. -/
structure Pattern where
  raw : String
  segments : List Segment
  query : List QueryEntry
deriving DecidableEq, Repr

/-! ### Segments -/

namespace Segment

/-- The name that a placeholder captures under. -/
def name? : Segment → Option String
  | literal _        => none
  | placeholder name => some name

/-- What the segment takes from a stretch of a path, or `none` if it refuses it. -/
def capture? : Segment → String → Option (List String)
  | literal text,  part => if text = part then some [] else none
  | placeholder _, part => if part = "" then none else some [part]

def render : Segment → String
  | literal text     => text
  | placeholder name => ":" ++ name

/-- What a list of segments takes from as many stretches of a path. -/
def captureAll : List Segment → List String → Option (List String)
  | [],      []      => some []
  | s :: ss, p :: ps => do return (← s.capture? p) ++ (← captureAll ss ps)
  | _,       _       => none

/-- The stretches of the path that the segments make with `values` in the placeholders. -/
def fill : List Segment → List String → List String
  | [],                 _           => []
  | literal t :: ss,     values      => t :: fill ss values
  | placeholder _ :: ss, []          => "" :: fill ss []
  | placeholder _ :: ss, v :: values => v :: fill ss values

end Segment

def QueryEntry.render (e : QueryEntry) : String :=
  e.key ++ "=:" ++ e.name

/-! ### Patterns -/

namespace Pattern

/-- The names of the placeholders, in the order in which their values are captured. -/
def names (p : Pattern) : List String :=
  p.segments.filterMap Segment.name? ++ p.query.map QueryEntry.name

/-- How many values a match captures: one for each placeholder of the path and each entry of the
query. -/
def arity (p : Pattern) : Nat :=
  p.segments.countP (·.name?.isSome) + p.query.length

theorem length_names (p : Pattern) : p.names.length = p.arity := by
  simp [names, arity, List.length_filterMap_eq_countP]

/-- The values that the pattern takes from a decoded path and its query: those of the path from left
to right, then those of the query. Slashes have to line up exactly. -/
def captures (p : Pattern) (path : String) (query : Pairs) : Option (List String) := do
  let fromPath ← Segment.captureAll p.segments (Text.pieces '/' path)
  let fromQuery ← p.query.mapM fun e => query.get? e.key
  return fromPath ++ fromQuery

/-- The path that the pattern makes with `values` in its path placeholders. -/
def fill (p : Pattern) (values : List String) : String :=
  Text.joined '/' (Segment.fill p.segments values)

/-- The text of a pattern with the given parts. -/
def render (segments : List Segment) (query : List QueryEntry) : String :=
  let path := Text.joined '/' (segments.map Segment.render)
  if query.isEmpty then path
  else path ++ "?" ++ Text.joined '&' (query.map QueryEntry.render)

/-- The pattern text `raw` under a mount point, whose trailing slashes are dropped. -/
def mounted (mountPoint raw : String) : String :=
  Text.dropTrailing '/' mountPoint ++ raw

end Pattern

end Signpost
