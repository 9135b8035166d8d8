/-!
# UTF-8

`encode` writes characters as bytes. `decode` reads any bytes at all: a stretch that begins like a
character and cannot be completed, and a byte that begins none, each become one replacement
character. `decode_encode` says that what is written reads back.
-/

namespace Signpost

/-- A string of octets. -/
abbrev Bytes := List UInt8

namespace Utf8

/-! ### Writing -/

/-- The one to four bytes of a character. -/
def encodeChar (c : Char) : Bytes :=
  let n := c.toNat
  if n < 0x80 then
    [.ofNat n]
  else if n < 0x800 then
    [.ofNat (0xC0 + n / 0x40), .ofNat (0x80 + n % 0x40)]
  else if n < 0x10000 then
    [.ofNat (0xE0 + n / 0x1000), .ofNat (0x80 + n / 0x40 % 0x40), .ofNat (0x80 + n % 0x40)]
  else
    [.ofNat (0xF0 + n / 0x40000), .ofNat (0x80 + n / 0x1000 % 0x40),
      .ofNat (0x80 + n / 0x40 % 0x40), .ofNat (0x80 + n % 0x40)]

def encode (cs : List Char) : Bytes :=
  cs.flatMap encodeChar

@[simp] theorem encode_nil : encode [] = [] := rfl

@[simp] theorem encode_cons (c : Char) (cs : List Char) :
    encode (c :: cs) = encodeChar c ++ encode cs := rfl

theorem encode_append (cs ds : List Char) : encode (cs ++ ds) = encode cs ++ encode ds := by
  simp [encode]

/-! ### Reading -/

/-- The character that stands for what cannot be read. -/
def replacement : Char := '\uFFFD'

/-- How far a character has been read: its next byte has to lie between `low` and `high`, `later`
more have to follow that one, and `value` is what the bytes so far contribute. -/
inductive Reading
  | start
  | within (later low high value : Nat)
deriving DecidableEq, Repr

/-- Begins a character: what the byte yields at once, and what is to be read after it. -/
def begin (b : UInt8) : List Char × Reading :=
  let n := b.toNat
  if n < 0x80 then ([.ofNat n], .start)
  else if n < 0xC2 then ([replacement], .start)
  else if n < 0xE0 then ([], .within 0 0x80 0xBF (n - 0xC0))
  else if n < 0xF0 then
    -- three bytes: no short form of a smaller character, and no surrogate
    let low  := if n = 0xE0 then 0xA0 else 0x80
    let high := if n = 0xED then 0x9F else 0xBF
    ([], .within 1 low high (n - 0xE0))
  else if n < 0xF5 then
    -- four bytes: no short form, and nothing beyond the last code point
    let low  := if n = 0xF0 then 0x90 else 0x80
    let high := if n = 0xF4 then 0x8F else 0xBF
    ([], .within 2 low high (n - 0xF0))
  else ([replacement], .start)

/-- Reads one byte; one that does not continue the character at hand begins the next. -/
def step : Reading → UInt8 → List Char × Reading
  | .start,                     b => begin b
  | .within later low high value, b =>
    let n := b.toNat
    if low ≤ n ∧ n ≤ high then
      let value := value * 0x40 + (n - 0x80)
      match later with
      | 0     => ([.ofNat value], .start)
      | k + 1 => ([], .within k 0x80 0xBF value)
    else (replacement :: (begin b).1, (begin b).2)

/-- Reads on from the middle of a character. -/
def decodeFrom : Reading → Bytes → List Char
  | .start,  []      => []
  | .within .., []   => [replacement]
  | r,       b :: bs => (step r b).1 ++ decodeFrom (step r b).2 bs

/-- The text that the bytes spell. -/
def decode (bs : Bytes) : List Char :=
  decodeFrom .start bs

@[simp] theorem decode_nil : decode [] = [] := rfl

theorem decodeFrom_cons (r : Reading) (b : UInt8) (bs : Bytes) :
    decodeFrom r (b :: bs) = (step r b).1 ++ decodeFrom (step r b).2 bs := by
  cases r <;> rfl

/-- A written character is read as that character, whatever follows it. -/
theorem decodeFrom_encodeChar (c : Char) (bs : Bytes) :
    decodeFrom .start (encodeChar c ++ bs) = c :: decodeFrom .start bs := by
  have hc : c.toNat < 0xD800 ∨ 0xDFFF < c.toNat ∧ c.toNat < 0x110000 := c.valid
  have hb : ∀ n, n < 256 → (UInt8.ofNat n).toNat = n := fun n h => by simp; omega
  have hn : Char.ofNat c.toNat = c := by simp
  unfold encodeChar
  generalize c.toNat = n at hc hn ⊢
  dsimp only
  split
  · simp [decodeFrom_cons, step, begin, hb n (by omega), *]
  split
  · have h₀ : (0xC0 + n / 0x40 - 0xC0) * 0x40 + (0x80 + n % 0x40 - 0x80) = n := by omega
    simp only [List.cons_append, List.nil_append, decodeFrom_cons, step, begin,
      hb (0xC0 + n / 0x40) (by omega), hb (0x80 + n % 0x40) (by omega),
      if_neg (show ¬ 0xC0 + n / 0x40 < 0x80 by omega),
      if_neg (show ¬ 0xC0 + n / 0x40 < 0xC2 by omega),
      if_pos (show 0xC0 + n / 0x40 < 0xE0 by omega),
      if_pos (show 0x80 ≤ 0x80 + n % 0x40 ∧ 0x80 + n % 0x40 ≤ 0xBF by omega), h₀, hn]
  split
  · have h₀ : ((0xE0 + n / 0x1000 - 0xE0) * 0x40 + (0x80 + n / 0x40 % 0x40 - 0x80)) * 0x40
        + (0x80 + n % 0x40 - 0x80) = n := by omega
    have h₁ : (if 0xE0 + n / 0x1000 = 0xE0 then 0xA0 else 0x80) ≤ 0x80 + n / 0x40 % 0x40 ∧
        0x80 + n / 0x40 % 0x40 ≤ (if 0xE0 + n / 0x1000 = 0xED then 0x9F else 0xBF) := by
      constructor <;> split <;> omega
    simp only [List.cons_append, List.nil_append, decodeFrom_cons, step, begin,
      hb (0xE0 + n / 0x1000) (by omega), hb (0x80 + n / 0x40 % 0x40) (by omega),
      hb (0x80 + n % 0x40) (by omega),
      if_neg (show ¬ 0xE0 + n / 0x1000 < 0x80 by omega),
      if_neg (show ¬ 0xE0 + n / 0x1000 < 0xC2 by omega),
      if_neg (show ¬ 0xE0 + n / 0x1000 < 0xE0 by omega),
      if_pos (show 0xE0 + n / 0x1000 < 0xF0 by omega), if_pos h₁,
      if_pos (show 0x80 ≤ 0x80 + n % 0x40 ∧ 0x80 + n % 0x40 ≤ 0xBF by omega), h₀, hn]
  · have h₀ : (((0xF0 + n / 0x40000 - 0xF0) * 0x40 + (0x80 + n / 0x1000 % 0x40 - 0x80)) * 0x40
        + (0x80 + n / 0x40 % 0x40 - 0x80)) * 0x40 + (0x80 + n % 0x40 - 0x80) = n := by omega
    have h₁ : (if 0xF0 + n / 0x40000 = 0xF0 then 0x90 else 0x80) ≤ 0x80 + n / 0x1000 % 0x40 ∧
        0x80 + n / 0x1000 % 0x40 ≤ (if 0xF0 + n / 0x40000 = 0xF4 then 0x8F else 0xBF) := by
      constructor <;> split <;> omega
    simp only [List.cons_append, List.nil_append, decodeFrom_cons, step, begin,
      hb (0xF0 + n / 0x40000) (by omega), hb (0x80 + n / 0x1000 % 0x40) (by omega),
      hb (0x80 + n / 0x40 % 0x40) (by omega), hb (0x80 + n % 0x40) (by omega),
      if_neg (show ¬ 0xF0 + n / 0x40000 < 0x80 by omega),
      if_neg (show ¬ 0xF0 + n / 0x40000 < 0xC2 by omega),
      if_neg (show ¬ 0xF0 + n / 0x40000 < 0xE0 by omega),
      if_neg (show ¬ 0xF0 + n / 0x40000 < 0xF0 by omega),
      if_pos (show 0xF0 + n / 0x40000 < 0xF5 by omega), if_pos h₁,
      if_pos (show 0x80 ≤ 0x80 + n / 0x40 % 0x40 ∧ 0x80 + n / 0x40 % 0x40 ≤ 0xBF by omega),
      if_pos (show 0x80 ≤ 0x80 + n % 0x40 ∧ 0x80 + n % 0x40 ≤ 0xBF by omega), h₀, hn]

theorem decode_encode (cs : List Char) : decode (encode cs) = cs := by
  induction cs with
  | nil => rfl
  | cons c cs ih => rw [encode_cons, decode, decodeFrom_encodeChar]; exact congrArg _ ih

/-- The text that the bytes spell, if they are written UTF-8. -/
def decode? (bs : Bytes) : Option (List Char) :=
  let cs := decode bs
  if encode cs = bs then some cs else none

end Utf8

/-! ### On strings -/

def Utf8.ofString (s : String) : Bytes :=
  encode s.toList

/-- The string that the bytes spell, with replacement characters where they spell none. -/
def Utf8.toString (bs : Bytes) : String :=
  String.ofList (decode bs)

@[simp] theorem Utf8.toString_ofString (s : String) : toString (ofString s) = s := by
  simp [toString, ofString, decode_encode]

end Signpost
