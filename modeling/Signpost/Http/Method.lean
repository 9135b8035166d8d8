import Signpost.Http.Header

/-!
# Methods

A method is a token, and its case matters.
-/

namespace Signpost

structure Method where
  token : String
deriving DecidableEq, Repr, Inhabited

namespace Method

/-- The text as a method, if it is a token. -/
def ofString? (s : String) : Option Method :=
  if isToken s then some ⟨s⟩ else none

def get : Method := ⟨"GET"⟩

def post : Method := ⟨"POST"⟩

end Method

end Signpost
