import Signpost.Number.Integer
import Signpost.Text.Split

/-!
# Addresses

Where a server listens: a host and the number of a service there, with a colon between them.
-/

namespace Signpost

/-- A host and the number of a service. -/
structure Address where
  host : String
  service : Nat
deriving DecidableEq, Repr

namespace Address

/-- Why a text is no address. -/
inductive Fault
  | noService
  | invalidService
deriving DecidableEq, Repr

def Fault.message : Fault → String
  | noService      => "io: invalid socket address"
  | invalidService => "io: invalid port value"

/-- Reads an address, with the number behind its last colon. -/
def read (text : String) : Except Fault Address :=
  match Text.cutList ':' text.toList.reverse with
  | none                 => .error .noService
  | some (service, host) =>
    match IntegerKind.read ⟨false, .bits16⟩ (String.ofList service.reverse) with
    | .ok n    => .ok ⟨String.ofList host.reverse, n.toNat⟩
    | .error _ => .error .invalidService

end Address

end Signpost
