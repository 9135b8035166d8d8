import Signpost.Pairs.Basic
import Signpost.Text.Percent

/-!
# Urlencoded pairs

The format `application/x-www-form-urlencoded`, which queries and form bodies are written in.
Reading never fails: whatever the bytes, they are pairs. Writing escapes all that reading would take
for something else.
-/

namespace Signpost.Pairs

/-! ### The bytes with a meaning of their own -/

abbrev ampersand : UInt8 := 0x26

abbrev equals : UInt8 := 0x3D

abbrev plus : UInt8 := 0x2B

abbrev blank : UInt8 := 0x20

/-! ### Reading -/

/-- A key or a value: plus signs become blanks, then escapes bytes, then the bytes text. -/
def readComponent (bs : Bytes) : String :=
  Utf8.toString (Percent.decode (bs.map fun b => if b = plus then blank else b))

/-- One pair, cut at the first equals sign. Without one the value is empty. -/
def readPair (bs : Bytes) : String × String :=
  match Text.cutList equals bs with
  | some (k, v) => (readComponent k, readComponent v)
  | none        => (readComponent bs, "")

/-- The pairs that the bytes hold. Empty stretches between ampersands are none. -/
def ofUrlencoded (bs : Bytes) : Pairs :=
  ⟨((bs.splitOn ampersand).filter (· ≠ [])).map readPair⟩

/-! ### Writing -/

/-- Whether a byte is written as it stands: an ASCII letter or digit, or one of `*-._`. -/
def isPlain (b : UInt8) : Bool :=
  let n := b.toNat
  (0x30 ≤ n && n ≤ 0x39) || (0x41 ≤ n && n ≤ 0x5A) || (0x61 ≤ n && n ≤ 0x7A) ||
    n == 0x2A || n == 0x2D || n == 0x2E || n == 0x5F

def writeByte (b : UInt8) : Bytes :=
  if isPlain b then [b] else if b = blank then [plus] else Percent.escape b

def writeComponent (s : String) : Bytes :=
  (Utf8.ofString s).flatMap writeByte

def writePair (p : String × String) : Bytes :=
  writeComponent p.1 ++ equals :: writeComponent p.2

def toUrlencoded (kv : Pairs) : Bytes :=
  [ampersand].intercalate (kv.toList.map writePair)

end Signpost.Pairs
