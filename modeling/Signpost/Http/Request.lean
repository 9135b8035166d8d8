import Signpost.Http.Method
import Signpost.Pairs.Urlencoded

/-!
# Requests

A request as routes see it: the path and the query are told apart, and the pairs of a form are read.
-/

namespace Signpost

structure Request where
  method : Method
  path : String
  query : Pairs := .empty
  form : Pairs := .empty
  body : Bytes := []
deriving DecidableEq, Repr, Inhabited

namespace Request

/-- The request for a target. The text behind its first question mark is the query, the text before
it is the path as it stands. -/
def ofTarget (method : Method) (target : String) : Request :=
  match Text.cut '?' target with
  | some (path, query) => { method, path, query := .ofUrlencoded (Utf8.ofString query) }
  | none               => { method, path := target }

/-- The pairs that the request sends: its form if it posts one, its query otherwise. -/
def pairs (r : Request) : Pairs :=
  if r.method = .post then r.form else r.query

/-- The first value under a key, in the form before the query. -/
def get? (r : Request) (key : String) : Option String :=
  r.form.get? key <|> r.query.get? key

end Request

end Signpost
