import Signpost.Dispatch.Selection

/-!
# Records of calls

A dispatch calls code that is not the router's own, and keeps a record of that. `Recorded.call` is
what calls such code, and nothing else puts a call into a record.
-/

namespace Signpost

/-- A call of code that is not the router's own: of a filter, of the handler of a route, or of a
resolver for the content of an asset. Indices count filters and routes in the order in which they
are tried. A handler that refuses what it is offered is not called. -/
inductive Call
  | filter (index : Nat)
  | handler (route : Nat)
  | load (route : Nat)
deriving DecidableEq, Repr

/-- A value, and the calls that were made on the way to it. -/
@[ext]
structure Recorded (α : Type) where
  value : α
  calls : List Call

namespace Recorded

variable {α β : Type}

/-- Calls code on an argument. -/
def call (c : Call) (code : α → β) (a : α) : Recorded β :=
  ⟨code a, [c]⟩

instance : Monad Recorded where
  pure a := ⟨a, []⟩
  bind x f := ⟨(f x.value).value, x.calls ++ (f x.value).calls⟩

@[simp] theorem value_call (c : Call) (code : α → β) (a : α) :
    (call c code a).value = code a := rfl

@[simp] theorem calls_call (c : Call) (code : α → β) (a : α) :
    (call c code a).calls = [c] := rfl

@[simp] theorem value_pure (a : α) : (pure a : Recorded α).value = a := rfl

@[simp] theorem calls_pure (a : α) : (pure a : Recorded α).calls = [] := rfl

@[simp] theorem value_bind (x : Recorded α) (f : α → Recorded β) :
    (x >>= f).value = (f x.value).value := rfl

@[simp] theorem calls_bind (x : Recorded α) (f : α → Recorded β) :
    (x >>= f).calls = x.calls ++ (f x.value).calls := rfl

end Recorded

end Signpost
