import Signpost.Text.Utf8

/-!
# Header fields

Fields in the order in which they were added. Names are kept in small letters, values are bytes
without control characters. `append` adds a value behind those of its name, `replace` puts one in
their place; `values_append` and `values_replace` say what that does to the values under a name.
-/

namespace Signpost

/-! ### Values -/

/-- Whether a byte may stand in a header value: no control character but the tab. -/
def HeaderValue.allows (b : UInt8) : Bool :=
  (0x20 ≤ b.toNat && b.toNat ≠ 0x7F) || b.toNat == 0x09

structure HeaderValue where
  bytes : Bytes
  isAllowed : bytes.all HeaderValue.allows = true
deriving DecidableEq, Repr

namespace HeaderValue

/-- The bytes as a header value, if they can be one. -/
def ofBytes? (bs : Bytes) : Option HeaderValue :=
  if h : bs.all allows = true then some ⟨bs, h⟩ else none

/-- The text as a header value, if it can be one. -/
def ofString? (s : String) : Option HeaderValue :=
  ofBytes? (Utf8.ofString s)

/-- Whether a byte is printable ASCII or a tab. -/
def isVisible (b : UInt8) : Bool :=
  (0x20 ≤ b.toNat && b.toNat < 0x7F) || b.toNat == 0x09

end HeaderValue

/-! ### Names -/

/-- Whether a byte may stand in a token, such as a header name or a method. -/
def isTokenByte (b : UInt8) : Bool :=
  let n := b.toNat
  (0x30 ≤ n && n ≤ 0x39) || (0x41 ≤ n && n ≤ 0x5A) || (0x61 ≤ n && n ≤ 0x7A) ||
    (Utf8.ofString "!#$%&'*+-.^_`|~").contains b

/-- Whether the text is a token: not empty, and all of it token bytes. -/
def isToken (s : String) : Bool :=
  s ≠ "" && (Utf8.ofString s).all isTokenByte

/-- The name of a header field, in small letters. -/
structure HeaderName where
  text : String
deriving DecidableEq, Repr

namespace HeaderName

/-- The text as a header name, if it is a token whose length has 16 bits; its letters are made
small. -/
def ofString? (s : String) : Option HeaderName :=
  if isToken s ∧ s.utf8ByteSize < 65536 then some ⟨s.map Char.toLower⟩ else none

/-- The field that names the type of a body. -/
def contentType : HeaderName := ⟨"content-type"⟩

/-- The field that names the place to go to. -/
def location : HeaderName := ⟨"location"⟩

end HeaderName

/-! ### Fields -/

/-- Header fields in the order in which they were added. -/
structure Headers where
  fields : List (HeaderName × HeaderValue) := []
deriving DecidableEq, Repr, Inhabited

namespace Headers

def empty : Headers := {}

/-- The values under a name, in their order. -/
def values (h : Headers) (name : HeaderName) : List HeaderValue :=
  h.fields.filterMap fun (n, v) => if n = name then some v else none

def get? (h : Headers) (name : HeaderName) : Option HeaderValue :=
  (h.values name).head?

/-- Adds a value behind those of its name. -/
def append (h : Headers) (name : HeaderName) (value : HeaderValue) : Headers :=
  ⟨h.fields ++ [(name, value)]⟩

/-- Puts a value in the place of all those of its name. -/
def replace (h : Headers) (name : HeaderName) (value : HeaderValue) : Headers :=
  ⟨h.fields.filter (fun f => f.1 ≠ name) ++ [(name, value)]⟩

/-- The fields by name; values of one name keep their order. -/
def sorted (h : Headers) : List (HeaderName × HeaderValue) :=
  h.fields.mergeSort fun f g => f.1.text ≤ g.1.text

@[simp] theorem values_empty (name : HeaderName) : empty.values name = [] := rfl

theorem values_append (h : Headers) (n name : HeaderName) (v : HeaderValue) :
    (h.append n v).values name = h.values name ++ if n = name then [v] else [] := by
  by_cases hn : n = name <;> simp [values, append, hn]

theorem values_replace (h : Headers) (n name : HeaderName) (v : HeaderValue) :
    (h.replace n v).values name = if n = name then [v] else h.values name := by
  obtain ⟨fields⟩ := h
  simp only [values, replace, List.filterMap_append]
  induction fields with
  | nil => by_cases hn : n = name <;> simp [hn]
  | cons f fields ih =>
    by_cases hf : f.1 = n <;> by_cases hn : n = name <;> simp_all
    by_cases hm : f.1 = name <;> simp_all

end Headers

end Signpost
