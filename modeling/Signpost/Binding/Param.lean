import Signpost.Answer.Payload
import Signpost.Number.Integer

/-!
# Parameters

A handler takes parameters of fixed kinds, and each captured text is read as the kind at its place.
`ParamKind.read` reads one text, `bindParams` a list of them from left to right.
-/

namespace Signpost

/-- What a parameter can be. -/
inductive ParamKind
  | text
  | integer (kind : IntegerKind)
  | bool
  | single
  | double
deriving DecidableEq, Repr

namespace ParamKind

abbrev Value : ParamKind → Type
  | text            => String
  | integer _       => Int
  | bool            => Bool
  | single | double => Binary

def name : ParamKind → String
  | text      => "String"
  | integer k => k.name
  | bool      => "bool"
  | single    => "f32"
  | double    => "f64"

def read : (k : ParamKind) → String → Option k.Value
  | text,      raw => some raw
  | integer k, raw => (k.read raw).toOption
  | bool,      raw => if raw = "true" then some true else if raw = "false" then some false else none
  | single,    raw => (Binary.read Binary.single raw).toOption
  | double,    raw => (Binary.read Binary.double raw).toOption

/-- Answers with a value: a text as a page, a number or a truth value as JSON. Numbers of more than
64 bits are answered as text. -/
def payload : (k : ParamKind) → k.Value → Payload
  | text,      s => .html s
  | integer k, n => if k.width = .bits128 then .html (Int.repr n) else .json (.integer n)
  | bool,      b => .json (.bool b)
  | single, x | double, x => .json (.ofBinary x)

end ParamKind

/-! ### Lists of parameters -/

/-- Values of the given kinds in their order. -/
abbrev Args : List ParamKind → Type
  | []      => Unit
  | k :: ks => k.Value × Args ks

/-- Why the parameters of a handler could not be bound. -/
inductive ParamFault
  | invalidValue (value : String) (kind : ParamKind)
  | missing (index : Nat)
deriving DecidableEq, Repr

/-- Reads one text for each kind; `index` is the place of the first of them. What is wrong is found
from left to right, and texts beyond the last kind are ignored. -/
def bindParamsFrom (index : Nat) : (ks : List ParamKind) → List String → Except ParamFault (Args ks)
  | [],     _           => .ok ()
  | _ :: _, []          => .error (.missing index)
  | k :: ks, raw :: raws =>
    match k.read raw with
    | none   => .error (.invalidValue raw k)
    | some v =>
      match bindParamsFrom (index + 1) ks raws with
      | .ok vs   => .ok (v, vs)
      | .error e => .error e

def bindParams (ks : List ParamKind) (raws : List String) : Except ParamFault (Args ks) :=
  bindParamsFrom 0 ks raws

end Signpost
