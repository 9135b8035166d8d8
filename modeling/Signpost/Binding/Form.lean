import Signpost.Json.Value
import Signpost.Pairs.Basic
import Signpost.Number.Integer
import Signpost.Text.Quoted

/-!
# Form records

A record is read from the pairs of a form field by field. A schema lists the fields with their kinds
and with what an absent field is; keys that no field has are ignored. The first fault, in the order
of the pairs, is the one that is reported; absent fields are looked for at the end.
-/

namespace Signpost.Form

inductive Value
  | text (s : String)
  | integer (n : Int)
  | real (x : Binary)
  | bool (b : Bool)
  | nothing
deriving DecidableEq, Repr

/-- What a field can be: any text, a number, a truth value, one of a few words, or a single
character. -/
inductive Kind
  | text
  | integer (kind : IntegerKind)
  | real
  | bool
  | word (words : List String)
  | character
deriving DecidableEq, Repr

/-- Why pairs are no record. -/
inductive Fault
  | missing (field : String)
  | duplicate (field : String)
  | integer (fault : IntegerKind.Fault)
  | real (fault : Binary.Fault)
  | bool
  | word (value : String) (words : List String)
  | character (value : String)
deriving DecidableEq, Repr

def ticked (s : String) : String :=
  "`" ++ s ++ "`"

/-- The words to choose from, as a message lists them. -/
def choice : List String → String
  | []     => "there are no variants"
  | [a]    => "expected " ++ ticked a
  | [a, b] => "expected " ++ ticked a ++ " or " ++ ticked b
  | words  => "expected one of " ++ ", ".intercalate (words.map ticked)

def Fault.message : Fault → String
  | missing field   => "missing field " ++ ticked field
  | duplicate field => "duplicate field " ++ ticked field
  | integer fault   => fault.message
  | real fault      => fault.message
  | bool            => "provided string was not `true` or `false`"
  | word value words => "unknown variant " ++ ticked value ++ ", " ++ choice words
  | character value => "invalid value: string " ++ Text.quoted value ++ ", expected a character"

def Kind.read : Kind → String → Except Fault Value
  | text,      s => .ok (.text s)
  | integer k, s => ((k.read s).map Value.integer).mapError Fault.integer
  | real,      s => ((Binary.read Binary.double s).map Value.real).mapError Fault.real
  | bool,      s =>
    if s = "true" then .ok (.bool true)
    else if s = "false" then .ok (.bool false)
    else .error .bool
  | word words, s => if s ∈ words then .ok (.text s) else .error (.word s words)
  | character, s => if s.toList.length = 1 then .ok (.text s) else .error (.character s)

/-- A field of a record. Without `absent` the field has to be there. -/
structure Field where
  name : String
  kind : Kind
  absent : Option Value := none
deriving DecidableEq, Repr

/-- The fields of a record in their order. -/
abbrev Schema := List Field

/-- The values of a record under the names of its fields. -/
abbrev Record := List (String × Value)

/-- Reads the values that pairs give to fields, behind those in `seen`. A field may have one pair,
and a second is refused before its value is looked at. -/
def collect (schema : Schema) (seen : Record) : List (String × String) → Except Fault Record
  | []             => .ok seen
  | (k, v) :: rest =>
    match schema.find? (·.name == k) with
    | none   => collect schema seen rest
    | some f =>
      if (seen.lookup k).isSome then .error (.duplicate k)
      else
        match f.kind.read v with
        | .ok x    => collect schema (seen ++ [(k, x)]) rest
        | .error e => .error e

/-- The value of a field, as it was read or as it is without a pair. -/
def Field.value (f : Field) (seen : Record) : Except Fault Value :=
  match seen.lookup f.name <|> f.absent with
  | some x => .ok x
  | none   => .error (.missing f.name)

def read (schema : Schema) (kv : Pairs) : Except Fault Record := do
  let seen ← collect schema [] kv.toList
  schema.mapM fun f => return (f.name, ← f.value seen)

/-! ### As JSON -/

def Value.toJson : Value → Json
  | text s    => .text s
  | integer n => .integer n
  | real x    => .ofBinary x
  | bool b    => .bool b
  | nothing   => .null

/-- The text of a field, if it has one. -/
def Record.text (r : Record) (field : String) : String :=
  match r.lookup field with
  | some (.text s) => s
  | _              => ""

/-! ### Maps -/

/-- Puts a pair in its place among pairs in the order of their keys; a key has one value. -/
def putSorted (k v : String) : List (String × String) → List (String × String)
  | []             => [(k, v)]
  | (l, w) :: rest =>
    if k = l then (k, v) :: rest
    else if k < l then (k, v) :: (l, w) :: rest
    else (l, w) :: putSorted k v rest

/-- The pairs as a map in the order of its keys; of several values under a key the last counts. -/
def sortedMap (kv : Pairs) : List (String × String) :=
  kv.toList.foldl (fun map (k, v) => putSorted k v map) []

end Signpost.Form
