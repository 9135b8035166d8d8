import Signpost.Text.Split

/-!
# Key/value pairs

Queries and forms are pairs of strings in the order in which they were sent. Keys may repeat; a look
up finds the first.
-/

namespace Signpost

/-- Pairs of strings in order, keys with repetition. -/
structure Pairs where
  toList : List (String × String) := []
deriving DecidableEq, Repr, Inhabited

namespace Pairs

def empty : Pairs := {}

/-- The value of the first pair under `key`. -/
def get? (kv : Pairs) (key : String) : Option String :=
  kv.toList.lookup key

def insert (kv : Pairs) (key value : String) : Pairs :=
  ⟨kv.toList ++ [(key, value)]⟩

def size (kv : Pairs) : Nat :=
  kv.toList.length

def isEmpty (kv : Pairs) : Bool :=
  kv.toList.isEmpty

/-- The pairs for a human reader: `key=value`, joined by `&` and with nothing escaped. -/
def toText (kv : Pairs) : String :=
  Text.joined '&' (kv.toList.map fun (k, v) => k ++ "=" ++ v)

@[simp] theorem get?_empty (key : String) : empty.get? key = none := rfl

theorem get?_cons (k v key : String) (ps : List (String × String)) :
    get? ⟨(k, v) :: ps⟩ key = if key = k then some v else get? ⟨ps⟩ key := by
  by_cases h : key = k
  · subst h; simp [get?]
  · have hk : (key == k) = false := by simpa using h
    simp [get?, List.lookup_cons, h, hk]

@[simp] theorem size_insert (kv : Pairs) (k v : String) :
    (kv.insert k v).size = kv.size + 1 := by
  simp [size, insert]

end Pairs

end Signpost
