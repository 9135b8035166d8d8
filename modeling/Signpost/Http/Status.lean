/-!
# Status codes

Three digits, the first of which is not zero.
-/

namespace Signpost

/-- The status of a response. -/
structure Status where
  code : Nat
  hasThreeDigits : 100 ≤ code ∧ code ≤ 999 := by decide
deriving DecidableEq, Repr

namespace Status

/-- The number as a status, if it can be one. -/
def ofNat? (n : Nat) : Option Status :=
  if h : 100 ≤ n ∧ n ≤ 999 then some ⟨n, h⟩ else none

def ok : Status := { code := 200 }

def seeOther : Status := { code := 303 }

def badRequest : Status := { code := 400 }

def notFound : Status := { code := 404 }

def methodNotAllowed : Status := { code := 405 }

def payloadTooLarge : Status := { code := 413 }

def serverError : Status := { code := 500 }

end Status

end Signpost
