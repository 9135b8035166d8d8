import Signpost.Number.Decimal

/-!
# JSON values

Values with the order of their members kept. A number is an integer or a floating-point number; the
two are told apart, and so are `1` and `1.0`. An object that is made of members has one value under
each key: `ofMembers_of_nodup` says that members with different keys stay as they are.
-/

namespace Signpost

/-- A JSON value. A floating-point number is one of 64 bits. -/
inductive Json
  | null
  | bool (b : Bool)
  | integer (n : Int)
  | real (x : Binary)
  | text (s : String)
  | array (items : List Json)
  | object (members : List (String × Json))
deriving Repr, Inhabited

namespace Json

/-- Why a value has no JSON form. -/
inductive Fault
  | keyNotText
deriving DecidableEq, Repr

def Fault.message : Fault → String
  | .keyNotText => "key must be a string"

/-- The object with the given members, whose keys have to be texts. -/
def ofEntries (entries : List (Json × Json)) : Except Fault Json :=
  object <$> entries.mapM fun
    | (text key, value) => .ok (key, value)
    | _                 => .error .keyNotText

/-- Puts a value under a key: in the place of the one that is there, or behind all others. -/
def put (members : List (String × Json)) (key : String) (value : Json) : List (String × Json) :=
  match members with
  | []           => [(key, value)]
  | (k, v) :: ms => if k = key then (k, value) :: ms else (k, v) :: put ms key value

/-- The object with the given members; of those with the same key the last gives the value. -/
def ofMembers (members : List (String × Json)) : Json :=
  object (members.foldl (fun ms m => put ms m.1 m.2) [])

/-- A new key is put behind all others. -/
theorem put_of_not_mem {ms : List (String × Json)} {k : String} (v : Json)
    (hk : k ∉ ms.map Prod.fst) : put ms k v = ms ++ [(k, v)] := by
  induction ms with
  | nil          => rfl
  | cons m ms ih =>
    simp only [List.map_cons, List.mem_cons, not_or] at hk
    simp [put, Ne.symm hk.1, ih hk.2]

/-- Members with different keys stay as they are. -/
theorem ofMembers_of_nodup {ms : List (String × Json)} (h : (ms.map Prod.fst).Nodup) :
    ofMembers ms = object ms := by
  suffices ∀ (front : List (String × Json)), ((front ++ ms).map Prod.fst).Nodup →
      ms.foldl (fun ms m => put ms m.1 m.2) front = front ++ ms by
    rw [ofMembers, this [] (by simpa using h), List.nil_append]
  clear h
  induction ms with
  | nil          => simp
  | cons m ms ih =>
    intro front h
    have hm : m.1 ∉ front.map Prod.fst := by
      intro hm
      rw [List.map_append, List.nodup_append] at h
      exact h.2.2 m.1 hm m.1 (by simp) rfl
    rw [List.foldl_cons, put_of_not_mem _ hm, ih (front ++ [(m.1, m.2)]) (by simpa using h)]
    simp

/-- A floating-point number of any format, as one of 64 bits. -/
def ofBinary (x : Binary) : Json :=
  real (Binary.double.round x)

/-- The value of the first member under `key`; `null` in a value that is no object. -/
def member (key : String) : Json → Json
  | object members => (members.lookup key).getD null
  | _              => null

end Json

end Signpost
